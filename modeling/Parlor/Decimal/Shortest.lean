import Parlor.Decimal.Binary

namespace Parlor.Decimal

namespace Binary

/-- Twice the exact bounds of what rounds to a number, over the denominator of the number: half of
the way to the numbers below and above. -/
def doubledBounds (x : Binary) : Nat × Nat × Nat :=
  let unit := twoTo x.exponent.toNat
  if x.significand = twoTo (precision - 1) && minExponent < x.exponent then
    (4 * x.numerator - unit, 4 * x.numerator + 2 * unit, 4 * x.denominator)
  else (2 * x.numerator - unit, 2 * x.numerator + unit, 2 * x.denominator)

def readsBack (x : Binary) (numerator denominator : Nat) : Bool :=
  let (low, high, scale) := x.doubledBounds
  let value := numerator * scale
  if x.significand % 2 = 0 then low * denominator ≤ value && value ≤ high * denominator
  else low * denominator < value && value < high * denominator

def decimalExponent (x : Binary) : Int :=
  if x.denominator ≤ x.numerator then
    ((Nat.toDigits 10 (x.numerator / x.denominator)).length : Int) - 1
  else
    let places := (Nat.toDigits 10 (x.denominator / x.numerator)).length
    if x.denominator ≤ x.numerator * tenTo (places - 1) then -((places : Int) - 1)
    else -(places : Int)

def scaled (count : Nat) (power : Int) : Nat × Nat :=
  (count * tenTo power.toNat, tenTo (-power).toNat)

/-- Of the two multiples of a power of ten around the number the nearer that reads back. -/
def nearestOnGrid (x : Binary) (power : Int) : Option Nat :=
  let (gridNumerator, gridDenominator) := scaled 1 power
  let below := x.numerator * gridDenominator / (x.denominator * gridNumerator)
  let remainder := x.numerator * gridDenominator % (x.denominator * gridNumerator)
  let ok (count : Nat) : Bool :=
    let (numerator, denominator) := scaled count power
    x.readsBack numerator denominator
  let nearer := if 2 * remainder < x.denominator * gridNumerator then below
    else if 2 * remainder = x.denominator * gridNumerator then below + below % 2
    else below + 1
  let farther := if nearer = below then below + 1 else below
  if ok nearer then some nearer else if ok farther then some farther else none

def shortestFrom (x : Binary) (first : Int) : Nat → Nat → Nat × Int
  | digits, 0 => (((x.nearestOnGrid (first - digits + 1)).getD 0), first - digits + 1)
  | digits, more + 1 =>
    match x.nearestOnGrid (first - digits + 1) with
    | some count => (count, first - digits + 1)
    | none => shortestFrom x first (digits + 1) more

def stripZeros (digits : List Char) : List Char × Nat :=
  let kept := (digits.reverse.dropWhile (· = '0')).reverse
  (kept, digits.length - kept.length)

def shortest (x : Binary) : List Char × Int :=
  let (count, last) := x.shortestFrom x.decimalExponent 1 16
  let digits := Nat.toDigits 10 count
  ((stripZeros digits).1, last + digits.length - 1)

end Binary

structure Format where
  leastPlain : Int
  greatestPlain : Int

def zeros (count : Nat) : List Char := List.replicate count '0'

def plainText (digits : List Char) (exponent : Int) : List Char :=
  if exponent < 0 then ['0', '.'] ++ zeros (-exponent - 1).toNat ++ digits
  else
    let whole := exponent.toNat + 1
    if digits.length ≤ whole then digits ++ zeros (whole - digits.length) ++ ['.', '0']
    else digits.take whole ++ '.' :: digits.drop whole

def powerText (digits : List Char) (exponent : Int) : List Char :=
  let point := if digits.length ≤ 1 then digits else digits.take 1 ++ '.' :: digits.drop 1
  point ++ ['e', if exponent < 0 then '-' else '+'] ++ Nat.toDigits 10 exponent.natAbs

def Format.write (format : Format) (negative : Bool) (x : Binary) : String :=
  let body :=
    if x.significand = 0 then ['0', '.', '0']
    else
      let (digits, exponent) := x.shortest
      if format.leastPlain ≤ exponent && exponent ≤ format.greatestPlain then
        plainText digits exponent
      else powerText digits exponent
  String.ofList (if negative then '-' :: body else body)

end Parlor.Decimal
