namespace Parlor

structure Style where
  bold : Bool
  underline : Bool
  red : Nat
  green : Nat
  blue : Nat
deriving DecidableEq, Repr

namespace Style

def title : Style := ⟨true, true, 223, 77, 10⟩

def description : Style := ⟨false, false, 102, 208, 250⟩

def error : Style := ⟨false, false, 230, 30, 30⟩

def prompt : Style := ⟨true, false, 220, 180, 40⟩

def reset : List Char := "\u001b[0m".toList

def opening (style : Style) : List Char :=
  let codes :=
    (if style.bold then ["1"] else []) ++ (if style.underline then ["4"] else []) ++
      ["38", "2", toString style.red, toString style.green, toString style.blue]
  ("\u001b[" ++ String.intercalate ";" codes ++ "m").toList

/-- A text with the opening sequence after every place that turns all marks off. -/
def reopen (opening : List Char) : Nat → List Char → List Char
  | _, [] => []
  | 0, c :: text =>
    if reset.isPrefixOf (c :: text) then c :: reopen opening (reset.length - 1) text
    else c :: reopen opening 0 text
  | 1, c :: text => c :: opening ++ reopen opening 0 text
  | left + 2, c :: text => c :: reopen opening (left + 1) text

def apply (style : Style) (coloured : Bool) (text : String) : String :=
  if coloured then
    String.ofList (style.opening ++ reopen style.opening 0 text.toList ++ reset)
  else text

end Style

end Parlor
