import Parlor.Layout.Breaks
import Parlor.Text.Alphanumeric
import Parlor.Text.Bytes
import Parlor.Text.Space
/-!
# Wrapped text

Long lines are broken so that they fit into a number of columns. Of all ways to break a line the
one with the least cost is taken: every line costs something, a line that is too wide costs a lot,
a gap at the end of a line costs its square, and a very short last line costs a little.
-/

namespace Parlor.Layout

structure Penalties where
  line : Nat
  overflow : Nat
  shortLastLine : Nat
  shortPart : Nat

def penalties : Penalties := ⟨1000, 2500, 25, 4⟩

def cutAtHyphens (part : List Char) : List Char → List (List Char)
  | [] => [part.reverse]
  | c :: rest =>
    if c = '-' && part.head?.any Text.isAlphanumeric && rest.head?.any Text.isAlphanumeric then
      (c :: part).reverse :: cutAtHyphens [] rest
    else cutAtHyphens (c :: part) rest

/-- Cuts into pieces of at most a number of columns what follows a piece, which is given backwards
with the columns that it takes. -/
def cutEvery (width : Nat) (piece : List Char) (used : Nat) : List Glyph → List (List Char)
  | [] => [piece.reverse]
  | glyph :: rest =>
    if !glyph.hidden && 0 < used && width < used + glyph.width then
      piece.reverse :: cutEvery width [glyph.char] glyph.width rest
    else cutEvery width (glyph.char :: piece) (used + glyph.width) rest

def fragmentsOf (spaces : Nat) : List (List Char) → List Fragment
  | [] => []
  | [text] => [⟨text, spaces⟩]
  | text :: rest => ⟨text, 0⟩ :: fragmentsOf spaces rest

def fragments (width : Nat) (line : List Char) : List Fragment :=
  (cutLine line).flatMap fun fragment =>
    fragmentsOf fragment.spaces ((cutAtHyphens [] fragment.text).flatMap fun text =>
      cutEvery width [] 0 (glyphs text))

/-- A way to break the fragments up to a place, with the fragments behind it in one line. The lines
and the fragments of the open one are listed from the last. -/
structure Draft where
  cost : Nat
  lines : List (List Fragment)
  current : List Fragment
  width : Nat

def Draft.extend (draft : Draft) (fragment : Fragment) : Draft :=
  { draft with
    current := fragment :: draft.current
    width := draft.width + fragment.width + fragment.spaces }

def Draft.closedCost (width : Nat) (isLast : Bool) (fragment : Fragment) (draft : Draft) : Nat :=
  let used := draft.width - fragment.spaces
  let target := max width 1
  draft.cost + penalties.line +
    if target < used then (used - target) * penalties.overflow
    else if !isLast then (target - used) * (target - used)
    else if draft.current.length = 1 && used * penalties.shortPart < target then
      penalties.shortLastLine
    else 0

def cheapest (cost : Draft → Nat) : List Draft → Option (Nat × Draft × List Draft)
  | [] => none
  | draft :: rest =>
    match cheapest cost rest with
    | none => some (cost draft, draft, rest)
    | some (best, other, later) =>
      if cost draft ≤ best then some (cost draft, draft, rest) else some (best, other, later)

/-- Goes through the fragments with a draft for every place where the open line may begin, the
first place first. Drafts before the cheapest one are given up: their open lines are longer, so
that every further fragment costs them at least as much, and they stay dearer. -/
def breakFrom (width : Nat) (drafts : List Draft) (best : List (List Fragment)) :
    List Fragment → List (List Fragment)
  | [] => best
  | fragment :: rest =>
    let longer := drafts.map (·.extend fragment)
    match cheapest (Draft.closedCost width rest.isEmpty fragment) longer with
    | none => best
    | some (cost, draft, later) =>
      let lines := draft.current :: draft.lines
      breakFrom width (draft :: later ++ [⟨cost, lines, [], 0⟩]) lines rest

def breakLines (width : Nat) (fragments : List Fragment) : List (List Fragment) :=
  ((breakFrom width [⟨0, [], [], 0⟩] [] fragments).map List.reverse).reverse

def lineText : List Fragment → List Char
  | [] => []
  | [fragment] => fragment.text
  | fragment :: rest => fragment.text ++ blanks fragment.spaces ++ lineText rest

def wrapLine (width : Nat) (line : List Char) : List (List Char) :=
  if Text.byteLength line < width then [Text.trimEndSpaces line]
  else
    match breakLines width (fragments width line) with
    | [] => [[]]
    | lines => lines.map lineText

def splitLines : List Char → List (List Char)
  | [] => [[]]
  | c :: rest =>
    if c = '\n' then [] :: splitLines rest
    else match splitLines rest with
      | [] => [[c]]
      | line :: lines => (c :: line) :: lines

def joinLines (lines : List (List Char)) : List Char := ['\n'].intercalate lines

def wrap (width : Nat) (text : String) : String :=
  String.ofList (joinLines ((splitLines text.toList).flatMap (wrapLine width)))

end Parlor.Layout
