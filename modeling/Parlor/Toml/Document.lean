import Parlor.Toml.Scalar
import Parlor.Toml.Table

namespace Parlor.Toml

/-- How many lists and tables can stand in each other, and how many parts a key can have. -/
def nestingLimit : Nat := 79

def isBare (c : Char) : Bool := c.isAlphanum || c = '-' || c = '_'

def keyPart : Reader String := do
  blanks
  let part ← quotedLine <|> literalLine <|> do
    pure (String.ofList (← Reader.charsWhile1 isBare))
  blanks
  pure part

def key : Reader Key := do
  let parts ← Reader.separated1 (Reader.exactly ".") keyPart
  guard (parts.length ≤ nestingLimit)
  match parts.getLast? with
  | some last => pure ⟨parts.dropLast, last⟩
  | none => failure

def definition (value : Reader Value) : Reader (Key × Value) := do
  let defined ← key
  Reader.exactly "="
  blanks
  pure (defined, ← value)

def listOf (value : Reader Value) : Reader Value := do
  Reader.exactly "["
  let items ← Reader.separated (Reader.exactly ",") do
    space
    let item ← value
    space
    pure item
  if !items.isEmpty then
    let _ ← optional (Reader.exactly ",")
  space
  Reader.exactly "]"
  pure (.list items)

def tableOf (value : Reader Value) : Reader Value := do
  Reader.exactly "\x7b"
  let definitions ← Reader.separated (Reader.exactly ",") do
    let defined ← definition value
    blanks
    pure defined
  blanks
  Reader.exactly "\x7d"
  match definitions.foldlM (fun members defined => Members.define members defined.1 defined.2) [] with
  | some members => pure (.table .braces members)
  | none => failure

def simple : Reader Value := (do pure (.text (← quoted))) <|> do scalar; pure .scalar

def value : Nat → Reader Value
  | 0 => simple
  | depth + 1 => simple <|> listOf (value depth) <|> tableOf (value depth)

inductive Entry where
  | definition (key : Key) (value : Value)
  | table (header : Key)
  | element (header : Key)

def entry : Reader Entry :=
  (do Reader.exactly "[["; let header ← key; Reader.exactly "]]"; pure (.element header))
    <|> (do Reader.exactly "["; let header ← key; Reader.exactly "]"; pure (.table header))
    <|> do
      let (key, value) ← definition (value nestingLimit)
      pure (.definition key value)

def line : Reader (Option Entry) := do
  blanks
  let said ← optional entry
  blanks
  let _ ← optional remark
  newline <|> endOfText
  pure said

def entries : Reader (List Entry) := do
  let _ ← optional (Reader.exactly "\ufeff")
  let lines ← Reader.many line
  pure (lines.filterMap id)

structure Document where
  members : Members
  current : List String

namespace Document

def add (document : Document) : Entry → Option Document
  | .definition key value => do
    let members ← Members.under (fun inner => Members.define inner key value)
      document.current document.members
    pure { document with members }
  | .table header => do
    let members ← Members.openTable document.members header
    pure ⟨members, header.path ++ [header.last]⟩
  | .element header => do
    let members ← Members.openElement document.members header
    pure ⟨members, header.path ++ [header.last]⟩

end Document

def parse? (text : String) : Option Members := do
  let lines ← Reader.readAll entries text
  let document ← lines.foldlM Document.add ⟨[], []⟩
  pure document.members

end Parlor.Toml
