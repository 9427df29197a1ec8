import Parlor.Decimal.Binary
import Parlor.Toml.Quoted

namespace Parlor.Toml

def groupedDigits (p : Char → Bool) : Reader (List Char) := do
  let first ← Reader.char p
  let more ← Reader.many (Reader.char p <|> do Reader.exactly "_"; Reader.char p)
  pure (first :: more)

def sign : Reader Bool :=
  (do Reader.exactly "-"; pure true) <|> (do Reader.exactly "+"; pure false) <|> pure false

def wholeDigits : Reader (List Char) :=
  (do Reader.exactly "0"; pure ['0']) <|> groupedDigits Char.isDigit

def numberOf (base : Nat) (digits : List Char) : Nat :=
  digits.foldl (fun number digit => base * number + hexValue digit) 0

def wholeLimit : Nat := Decimal.twoTo 63

def decimalWhole : Reader Unit := do
  let negative ← sign
  let number := numberOf 10 (← wholeDigits)
  guard (number < wholeLimit || (negative && number = wholeLimit))

def markedWhole (mark : String) (base : Nat) (p : Char → Bool) : Reader Unit := do
  Reader.exactly mark
  guard (numberOf base (← groupedDigits p) < wholeLimit)

def whole : Reader Unit :=
  markedWhole "0x" 16 isHexDigit
    <|> markedWhole "0o" 8 (fun c => '0' ≤ c && c ≤ '7')
    <|> markedWhole "0b" 2 (fun c => c = '0' || c = '1')
    <|> decimalWhole

def fraction : Reader (List Char) := do
  Reader.exactly "."
  groupedDigits Char.isDigit

def exponent : Reader Int := do
  let _ ← Reader.char fun c => c = 'e' || c = 'E'
  let negative ← sign
  let number := numberOf 10 (← groupedDigits Char.isDigit)
  pure (if negative then -(number : Int) else number)

/-- Whether a decimal number rounds to a binary floating-point number. Only a number between the
tenth powers 308 and 309 needs a closer look. -/
def isRepresentable (digits : List Char) (exponent : Int) : Bool :=
  let significant := digits.dropWhile (· = '0')
  let magnitude : Int := significant.length + exponent
  if significant.isEmpty || magnitude < 309 then true
  else if 309 < magnitude then false
  else
    let number := numberOf 10 significant
    if 0 ≤ exponent then (Decimal.Binary.ofNat (number * Decimal.tenTo exponent.toNat)).isSome
    else (Decimal.Binary.ofQuotient number (Decimal.tenTo (-exponent).toNat)).isSome

def floating : Reader Unit := do
  let negative ← sign
  let digits ← wholeDigits
  let (places, power) ←
    (do let power ← exponent; pure ([], power))
      <|> (do
        let places ← fraction
        let power ← exponent <|> pure 0
        pure (places, power))
  guard (negative || isRepresentable (digits ++ places) (power - places.length))

def special : Reader Unit := do
  let _ ← sign
  Reader.exactly "inf" <|> Reader.exactly "nan"

def fixedWidth (width least greatest : Nat) : Reader Nat := do
  let number := numberOf 10 (← Reader.charsOf Char.isDigit width)
  guard (least ≤ number && number ≤ greatest)
  pure number

def daysIn (year month : Nat) : Nat :=
  if month = 2 then
    if year % 4 = 0 && (year % 100 != 0 || year % 400 = 0) then 29 else 28
  else if [4, 6, 9, 11].contains month then 30
  else 31

def date : Reader Unit := do
  let year ← fixedWidth 4 0 9999
  Reader.exactly "-"
  let month ← fixedWidth 2 1 12
  Reader.exactly "-"
  let _ ← fixedWidth 2 1 (daysIn year month)

def hoursAndMinutes : Reader Unit := do
  let _ ← fixedWidth 2 0 23
  Reader.exactly ":"
  let _ ← fixedWidth 2 0 59

def time : Reader Unit := do
  hoursAndMinutes
  Reader.exactly ":"
  let _ ← fixedWidth 2 0 60
  let _ ← optional (do Reader.exactly "."; Reader.charsWhile1 Char.isDigit)

def offset : Reader Unit :=
  (do let _ ← Reader.char fun c => c = 'Z' || c = 'z')
    <|> do
      let _ ← Reader.char fun c => c = '+' || c = '-'
      hoursAndMinutes

def timeOfDate : Reader Unit := do
  let _ ← Reader.char fun c => c = 'T' || c = 't' || c = ' '
  time
  let _ ← optional offset

def moment : Reader Unit :=
  (do date; let _ ← optional timeOfDate) <|> time

def scalar : Reader Unit :=
  Reader.exactly "true" <|> Reader.exactly "false" <|> moment <|> floating <|> special <|> whole

end Parlor.Toml
