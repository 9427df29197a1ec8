namespace Parlor.Toml

structure Rest where
  chars : List Char
  count : Nat
deriving DecidableEq, Repr

namespace Rest

def ofString (text : String) : Rest := ⟨text.toList, text.length⟩

def drop (rest : Rest) (count : Nat) : Rest := ⟨rest.chars.drop count, rest.count - count⟩

end Rest

abbrev Reader (α : Type) := StateT Rest Option α

namespace Reader

def char (p : Char → Bool) : Reader Char := fun text =>
  match text.chars with
  | [] => none
  | c :: _ => if p c then some (c, text.drop 1) else none

def exactly (expected : String) : Reader Unit := fun text =>
  if expected.toList.isPrefixOf text.chars then some ((), text.drop expected.length) else none

def charsWhile (p : Char → Bool) : Reader (List Char) := fun text =>
  let taken := text.chars.takeWhile p
  some (taken, text.drop taken.length)

def charsWhile1 (p : Char → Bool) : Reader (List Char) := do
  let first ← char p
  let more ← charsWhile p
  pure (first :: more)

def charsOf (p : Char → Bool) : Nat → Reader (List Char)
  | 0 => pure []
  | count + 1 => do
    let first ← char p
    let more ← charsOf p count
    pure (first :: more)

def many {α : Type} (read : Reader α) (text : Rest) : Option (List α × Rest) :=
  match read text with
  | none => some ([], text)
  | some (value, rest) =>
    if rest.count < text.count then
      match many read rest with
      | some (values, last) => some (value :: values, last)
      | none => none
    else some ([], text)
termination_by text.count

def separated1 {α : Type} (separator : Reader Unit) (read : Reader α) : Reader (List α) := do
  let first ← read
  let more ← many (do separator; read)
  pure (first :: more)

def separated {α : Type} (separator : Reader Unit) (read : Reader α) : Reader (List α) :=
  separated1 separator read <|> pure []

def readAll {α : Type} (read : Reader α) (text : String) : Option α :=
  match read (.ofString text) with
  | some (value, rest) => if rest.chars.isEmpty then some value else none
  | none => none

end Reader

def isBlank (c : Char) : Bool := c = ' ' || c = '\t'

def isPrintable (c : Char) : Bool := c = '\t' || (0x20 ≤ c.toNat && c.toNat != 0x7f)

def blanks : Reader Unit := do
  let _ ← Reader.charsWhile isBlank

def newline : Reader Unit := Reader.exactly "\n" <|> Reader.exactly "\r\n"

def remark : Reader Unit := do
  Reader.exactly "#"
  let _ ← Reader.charsWhile isPrintable

def endOfText : Reader Unit := do
  guard (← get).chars.isEmpty

def space : Reader Unit := do
  let _ ← Reader.many do
    blanks
    let _ ← optional remark
    newline
  blanks

end Parlor.Toml
