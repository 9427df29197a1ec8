import Parlor.Layout.ColumnTable
import Parlor.Text.ClusterTable
import Parlor.Text.Ranges

namespace Parlor.Layout

def isControl (c : Char) : Bool := c < ' ' || ('\x7f' ≤ c && c < '\u00a0')

def mostColumns : Nat := 3

def columns (c : Char) : Nat :=
  let code := c.toNat
  if isControl c then 0
  else if code = 0x17d8 then mostColumns
  else if Text.inRanges wideRanges code then 2
  -- A consonant joiner extends what stands before it but shows where nothing is joined.
  else if code = 0x2d7f then 1
  else if Text.inRanges Text.extendRanges code || Text.inRanges ignoredRanges code then 0
  else 1

inductive EscapeState where
  | outside
  | begun
  | parameters
  | title (escaped : Bool)
deriving DecidableEq, Repr

def EscapeState.after (state : EscapeState) (c : Char) : EscapeState :=
  match state with
  | outside => if c = '\x1b' then begun else outside
  | begun => if c = '[' then parameters else if c = ']' then title false else outside
  | parameters => if '@' ≤ c && c ≤ '~' then outside else parameters
  | title escaped =>
    if c = '\x07' || (escaped && c = '\\') then outside else title (c = '\x1b')

def EscapeState.hides (state : EscapeState) (c : Char) : Bool := state ≠ outside || c = '\x1b'

structure Glyph where
  char : Char
  hidden : Bool
deriving DecidableEq, Repr

def Glyph.width (glyph : Glyph) : Nat := if glyph.hidden then 0 else columns glyph.char

def glyphsFrom (state : EscapeState) : List Char → List Glyph
  | [] => []
  | c :: rest => ⟨c, state.hides c⟩ :: glyphsFrom (state.after c) rest

def glyphs (text : List Char) : List Glyph := glyphsFrom .outside text

def glyphsWidth : List Glyph → Nat
  | [] => 0
  | glyph :: rest => glyph.width + glyphsWidth rest

def textWidth (text : List Char) : Nat := glyphsWidth (glyphs text)

end Parlor.Layout
