namespace Parlor.Decimal

def twoTo (exponent : Nat) : Nat := Nat.pow 2 exponent

def tenTo (exponent : Nat) : Nat := Nat.pow 10 exponent

structure Binary where
  significand : Nat
  exponent : Int
deriving DecidableEq, Repr

namespace Binary

def precision : Nat := 53

def minExponent : Int := -1074

def maxExponent : Int := 971

def roundQuotient (numerator denominator : Nat) : Nat :=
  let quotient := numerator / denominator
  let remainder := numerator % denominator
  if 2 * remainder < denominator then quotient
  else if 2 * remainder = denominator then quotient + quotient % 2
  else quotient + 1

def bitLength (n : Nat) : Nat := if n = 0 then 0 else n.log2 + 1

def roundAt (numerator denominator : Nat) (exponent : Int) : Nat :=
  if exponent ≤ 0 then roundQuotient (numerator * twoTo (-exponent).toNat) denominator
  else roundQuotient numerator (denominator * twoTo exponent.toNat)

def ofQuotient (numerator denominator : Nat) : Option Binary :=
  if numerator = 0 then some ⟨0, minExponent⟩
  else
    let estimate := (bitLength numerator : Int) - bitLength denominator - precision
    let fits (exponent : Int) : Bool := roundAt numerator denominator exponent < twoTo precision
    let exponent := max minExponent (if fits estimate then estimate else estimate + 1)
    let significand := roundAt numerator denominator exponent
    let (significand, exponent) :=
      if significand < twoTo precision then (significand, exponent)
      else (significand / 2, exponent + 1)
    if exponent ≤ maxExponent then some ⟨significand, exponent⟩ else none

def ofNat (n : Nat) : Option Binary := ofQuotient n 1

def numerator (x : Binary) : Nat := x.significand * twoTo x.exponent.toNat

def denominator (x : Binary) : Nat := twoTo (-x.exponent).toNat

def mul (x y : Binary) : Option Binary :=
  ofQuotient (x.numerator * y.numerator) (x.denominator * y.denominator)

def div (x y : Binary) : Option Binary :=
  ofQuotient (x.numerator * y.denominator) (x.denominator * y.numerator)

end Binary

end Parlor.Decimal
