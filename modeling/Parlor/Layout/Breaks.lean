import Parlor.Layout.BreakTable
import Parlor.Layout.Columns

namespace Parlor.Layout

namespace BreakClass

def isLetter (cls : BreakClass) : Bool := cls ∈ [letter, hebrewLetter]

def isPicture (cls : BreakClass) : Bool := cls ∈ [ideograph, emoji, emojiModifier]

def isHangul (cls : BreakClass) : Bool :=
  cls ∈ [hangulLead, hangulVowel, hangulTail, hangulPair, hangulTriple]

def opens (cls : BreakClass) : Bool := cls ∈ [opening, wideOpening]

def isUnit (cls : BreakClass) : Bool := cls ∈ [beforeNumber, afterNumber]

def endsBlank (cls : BreakClass) : Bool := cls ∈ [lineEnd, zeroSpace]

def clings (cls : BreakClass) : Bool := cls ∈ [mark, joiner]

def neverFirst (cls : BreakClass) : Bool :=
  cls ∈ [closing, closingParenthesis, exclamation, separator, slash, wordJoiner]

def breaksAtSpace (before : Option BreakClass) (after : BreakClass) : Bool :=
  if after.endsBlank then false
  else if before = some zeroSpace then true
  else if after.neverFirst then false
  else
    -- A quotation mark does not hold a bracket behind spaces.
    match before with
    | some opening | some wideOpening => false
    | some closing | some closingParenthesis => after ≠ nonstarter
    | some dash => after ≠ dash
    | _ => true

def joins (before after : BreakClass) : Bool :=
  before.isLetter && (after.isLetter || after = digit || after.isUnit || after = opening) ||
  before = digit && (after.isLetter || after = digit || after.isUnit || after = opening) ||
  before.isUnit && (after.isLetter || after = digit || after.opens) ||
  before = beforeNumber && (after.isPicture || after.isHangul) ||
  (before.isPicture || before.isHangul) && after = afterNumber ||
  before ∈ [closing, closingParenthesis] && after.isUnit ||
  before = closingParenthesis && (after.isLetter || after = digit) ||
  before ∈ [hyphen, separator, slash] && after = digit ||
  before = separator && after.isLetter ||
  before = slash && after = hebrewLetter ||
  before = hangulLead && after ∈ [hangulLead, hangulVowel, hangulPair, hangulTriple] ||
  before ∈ [hangulVowel, hangulPair] && after ∈ [hangulVowel, hangulTail] ||
  before ∈ [hangulTail, hangulTriple] && after = hangulTail ||
  before = dash && after = dash ||
  before = flag && after = flag ||
  before = emoji && after = emojiModifier

/-- Whether a line may break between neighbours. What forbids or demands a break first counts. -/
def breaksBetween (before after : BreakClass) : Bool :=
  if before = lineEnd then true
  else if after.endsBlank then false
  else if before = zeroSpace then true
  else if after.neverFirst || before ∈ [wordJoiner, glue] then false
  else if after = glue then before ∈ [breakAfter, hyphen]
  else if before.opens || before = quotation || after = quotation then false
  else if before = object || after = object then true
  else if after ∈ [breakAfter, hyphen, nonstarter, inseparable] then false
  else if before ∈ [breakBefore, hebrewHyphen] then false
  else !before.joins after

/-- The class of a character behind another. Flags go in pairs, and a hyphen is another behind a
Hebrew letter. -/
def behind (before : Option BreakClass) (cls : BreakClass) : BreakClass :=
  match before, cls with
  | some flag, flag => secondFlag
  | some hebrewLetter, hyphen | some hebrewLetter, breakAfter => hebrewHyphen
  | _, _ => cls

end BreakClass

structure Fragment where
  text : List Char
  spaces : Nat
deriving DecidableEq, Repr

def Fragment.width (fragment : Fragment) : Nat := textWidth fragment.text

/-- Signs behind which a line is not broken: hyphens, and places for them. -/
def clingsAtEnd (c : Char) : Bool := c = '-' || c = '\u00ad'

def blanks (count : Nat) : List Char := List.replicate count ' '

def fragmentOf (part : List Char) : Fragment :=
  ⟨(part.dropWhile (· = ' ')).reverse, (part.takeWhile (· = ' ')).length⟩

structure BreakState where
  previous : Option Char
  last : Option BreakClass
deriving DecidableEq, Repr

namespace BreakState

def start : BreakState := ⟨none, none⟩

def spaced (state : BreakState) : Bool := state.previous = some ' '

def takesMarks (state : BreakState) : Bool := !state.spaced && state.last.any (!·.endsBlank)

/-- Whether a line may break in front of the next character. It does not break behind a hyphen, nor
where a word might be hyphenated; hyphens between letters are another matter. -/
def breaksBefore (state : BreakState) (c : Char) : Bool :=
  if c = ' ' then state.last = some .lineEnd && !state.spaced
  else
    let cls := breakClass c
    if state.previous.any clingsAtEnd || (cls.clings && state.takesMarks) then false
    else
      let cls := if cls.clings then .letter else cls
      if state.spaced then cls.breaksAtSpace state.last
      else state.previous.all (breakClass · ≠ .joiner) && state.last.any (·.breaksBetween cls)

def after (state : BreakState) (c : Char) : BreakState :=
  let cls := breakClass c
  let last :=
    if c = ' ' then if state.last = some .lineEnd then none else state.last
    else if cls.clings then if state.takesMarks then state.last else some .letter
    else if state.spaced then some cls
    else some (cls.behind state.last)
  ⟨some c, last⟩

end BreakState

/-- Cuts what follows a part of a line where it may break. The part is given backwards; behind it
comes a piece of escape sequences, also backwards, which belongs to what follows if the line breaks.
-/
def cutAfter (part hidden : List Char) (state : BreakState) : List Glyph → List Fragment
  | [] => if part.isEmpty && hidden.isEmpty then [] else [fragmentOf (hidden ++ part)]
  | glyph :: rest =>
    let c := glyph.char
    if glyph.hidden then cutAfter part (c :: hidden) state rest
    else if state.breaksBefore c then
      fragmentOf part :: cutAfter (c :: hidden) [] (state.after c) rest
    else cutAfter (c :: hidden ++ part) [] (state.after c) rest

def Fragment.append (first second : Fragment) : Fragment :=
  ⟨first.text ++ blanks first.spaces ++ second.text, second.spaces⟩

def joinLast : List Fragment → List Fragment
  | [] => []
  | [fragment] => [fragment]
  | [first, second] => [first.append second]
  | fragment :: rest => fragment :: joinLast rest

/-- Cuts a line wherever it may break. A line that ends with a hyphen does not break in front of its
last part. -/
def cutLine (line : List Char) : List Fragment :=
  let visible := (glyphs line).filter (!·.hidden)
  let parts := cutAfter [] [] .start (glyphs line)
  if visible.getLast?.any (clingsAtEnd ·.char) then joinLast parts else parts

end Parlor.Layout
