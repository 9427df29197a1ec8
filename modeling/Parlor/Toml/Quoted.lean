import Parlor.Toml.Reader

namespace Parlor.Toml

def isHexDigit (c : Char) : Bool :=
  c.isDigit || ('a' ≤ c && c ≤ 'f') || ('A' ≤ c && c ≤ 'F')

def hexValue (c : Char) : Nat :=
  if c.isDigit then c.toNat - '0'.toNat
  else if 'a' ≤ c then c.toNat - 'a'.toNat + 10
  else c.toNat - 'A'.toNat + 10

def codePoint (digits : Nat) : Reader Char := do
  let written ← Reader.charsOf isHexDigit digits
  let code := written.foldl (fun code digit => 16 * code + hexValue digit) 0
  guard ((Char.ofNat code).toNat = code)
  pure (Char.ofNat code)

def escape : Reader Char := do
  Reader.exactly "\\"
  match ← Reader.char fun _ => true with
  | 'b' => pure '\x08'
  | 't' => pure '\t'
  | 'n' => pure '\n'
  | 'f' => pure '\x0c'
  | 'r' => pure '\r'
  | '"' => pure '"'
  | '\\' => pure '\\'
  | 'u' => codePoint 4
  | 'U' => codePoint 8
  | _ => failure

def isQuotable (c : Char) : Bool := isPrintable c && c != '"' && c != '\\'

def isLiteral (c : Char) : Bool := isPrintable c && c != '\''

def quotedLine : Reader String := do
  Reader.exactly "\""
  let parts ← Reader.many (Reader.charsWhile1 isQuotable <|> do pure [← escape])
  Reader.exactly "\""
  pure (String.ofList parts.flatten)

def literalLine : Reader String := do
  Reader.exactly "'"
  let text ← Reader.charsWhile isLiteral
  Reader.exactly "'"
  pure (String.ofList text)

def continuation : Reader Unit := do
  Reader.exactly "\\"
  blanks
  newline
  let _ ← Reader.many do
    blanks
    newline
  blanks

def lineBreak : Reader (List Char) := do
  newline
  pure ['\n']

def innerMarks (mark : Char) : Reader (List Char) := do
  let marks ← Reader.charsWhile1 (· = mark)
  guard (marks.length < 3)
  pure marks

/-- Reads a text over several lines: three marks, perhaps a line end, the parts of the text, and
three marks; up to two more before these belong to the text. -/
def severalLines (mark : Char) (part : Reader (List Char)) : Reader String := do
  let _ ← Reader.charsOf (· = mark) 3
  let _ ← optional newline
  let parts ← Reader.many (part <|> innerMarks mark)
  let marks ← Reader.charsWhile1 (· = mark)
  guard (3 ≤ marks.length && marks.length ≤ 5)
  pure (String.ofList (parts.flatten ++ marks.drop 3))

def quotedLines : Reader String :=
  severalLines '"' <| Reader.charsWhile1 isQuotable <|> lineBreak
    <|> (do continuation; pure []) <|> do pure [← escape]

def literalLines : Reader String :=
  severalLines '\'' (Reader.charsWhile1 isLiteral <|> lineBreak)

def quoted : Reader String := quotedLines <|> quotedLine <|> literalLines <|> literalLine

end Parlor.Toml
