namespace Parlor.Text

/-- Characters with the White_Space property. -/
def isSpace (c : Char) : Bool :=
  ('\t' ≤ c && c ≤ '\r') || c = ' ' || c = '\u0085' || c = '\u00a0' || c = '\u1680' ||
    ('\u2000' ≤ c && c ≤ '\u200a') || c = '\u2028' || c = '\u2029' || c = '\u202f' ||
    c = '\u205f' || c = '\u3000'

def trimStart (text : List Char) : List Char := text.dropWhile isSpace

def trim (text : List Char) : List Char := (trimStart (trimStart text).reverse).reverse

def growFirst (c : Char) : List (List Char) → List (List Char)
  | [] => [[c]]
  | word :: rest => (c :: word) :: rest

def words : List Char → List (List Char)
  | [] => []
  | c :: rest =>
    if isSpace c then words rest
    else if rest.head?.all isSpace then [c] :: words rest
    else growFirst c (words rest)

def isBlank (text : String) : Bool := text.toList.all isSpace

def trimEndSpaces (text : List Char) : List Char :=
  (text.reverse.dropWhile (· = ' ')).reverse

end Parlor.Text
