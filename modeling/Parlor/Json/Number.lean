import Parlor.Decimal.Shortest
import Parlor.Json.Error

namespace Parlor.Json

open Decimal

def maxSignificand : Nat := twoTo 64 - 1

def digitValue (c : Char) : Nat := c.toNat - '0'.toNat

def takeDigits (significand taken : Nat) : List Char → Nat × Nat
  | [] => (significand, taken)
  | digit :: rest =>
    let longer := significand * 10 + digitValue digit
    if maxSignificand < longer then (significand, taken) else takeDigits longer (taken + 1) rest

def powerOfTen (power : Nat) : Option Binary := Binary.ofNat (tenTo power)

def divByPower (x : Binary) (power : Nat) : Nat → Option Binary
  | 0 => some x
  | steps + 1 =>
    if x.significand = 0 then some x
    else if power ≤ 308 then do x.div (← powerOfTen power)
    else do divByPower (← x.div (← powerOfTen 308)) (power - 308) steps

def scale (significand : Nat) (exponent : Int) : Option Binary := do
  let x ← Binary.ofNat significand
  if exponent < 0 then divByPower x exponent.natAbs (exponent.natAbs / 308 + 1)
  else if x.significand = 0 then some x
  else if exponent ≤ 308 then do x.mul (← powerOfTen exponent.toNat)
  else none

def floatFormat : Format := ⟨-5, 15⟩

def finishFloat (positive : Bool) (significand : Nat) (exponent : Int) (cursor : Cursor) :
    Except Error (Found × Cursor) :=
  match scale significand exponent with
  | some x => .ok (.floating (floatFormat.write (!positive) x), cursor)
  | none => cursor.fail .numberOutOfRange

def maxExponent : Nat := twoTo 31 - 1

def readExponentDigits (positive up : Bool) (significand : Nat) (exponent : Int) (value : Nat)
    (cursor : Cursor) : List Char → Except Error (Found × Cursor)
  | [] =>
    finishFloat positive significand (if up then exponent + value else exponent - value) cursor
  | digit :: rest =>
    let longer := value * 10 + digitValue digit
    if maxExponent < longer then
      if significand ≠ 0 && up then cursor.next.fail .numberOutOfRange
      else .ok (.floating (floatFormat.write (!positive) ⟨0, 0⟩),
        (cursor.span Char.isDigit).2)
    else readExponentDigits positive up significand exponent longer cursor.next rest

def readExponent (positive : Bool) (significand : Nat) (exponent : Int) (letter : Cursor) :
    Except Error (Found × Cursor) :=
  let (up, cursor) := match letter.next.rest with
    | '+' :: _ => (true, letter.next.next)
    | '-' :: _ => (false, letter.next.next)
    | _ => (true, letter.next)
  match cursor.rest with
  | [] => cursor.fail .endInValue
  | c :: _ =>
    if c.isDigit then
      readExponentDigits positive up significand exponent 0 cursor (cursor.span Char.isDigit).1
    else cursor.failNext .invalidNumber

def readExponent? (positive : Bool) (significand : Nat) (exponent : Int) (cursor : Cursor) :
    Except Error (Found × Cursor) :=
  match cursor.rest with
  | 'e' :: _ => readExponent positive significand exponent cursor
  | 'E' :: _ => readExponent positive significand exponent cursor
  | _ => finishFloat positive significand exponent cursor

def readFraction (positive : Bool) (significand : Nat) (exponent : Int) (point : Cursor) :
    Except Error (Found × Cursor) :=
  let (digits, cursor) := point.next.span Char.isDigit
  if digits.isEmpty then
    if cursor.rest.isEmpty then cursor.fail .endInValue else cursor.failNext .invalidNumber
  else
    let (significand, taken) := takeDigits significand 0 digits
    readExponent? positive significand (exponent - taken) cursor

/-- Finishes a whole number; it is a floating point number if it does not fit, or if it is a zero
with a sign. -/
def wholeNumber (positive : Bool) (significand : Nat) (cursor : Cursor) :
    Except Error (Found × Cursor) :=
  if positive then .ok (.integer (toString significand), cursor)
  else if significand = 0 || twoTo 63 < significand then finishFloat false significand 0 cursor
  else .ok (.integer ("-" ++ toString significand), cursor)

def readRest (positive : Bool) (significand dropped : Nat) (cursor : Cursor) :
    Except Error (Found × Cursor) :=
  match cursor.rest with
  | '.' :: _ => readFraction positive significand dropped cursor
  | 'e' :: _ => readExponent positive significand dropped cursor
  | 'E' :: _ => readExponent positive significand dropped cursor
  | _ =>
    if dropped = 0 then wholeNumber positive significand cursor
    else finishFloat positive significand dropped cursor

def readNumber (positive : Bool) (cursor : Cursor) : Except Error (Found × Cursor) :=
  match cursor.rest with
  | [] => cursor.fail .endInValue
  | first :: _ =>
    if first = '0' then
      if cursor.next.rest.head?.any Char.isDigit then cursor.next.failNext .invalidNumber
      else readRest positive 0 0 cursor.next
    else if first.isDigit then
      let (digits, after) := cursor.span Char.isDigit
      let (significand, taken) := takeDigits 0 0 digits
      readRest positive significand (digits.length - taken) after
    else cursor.failNext .invalidNumber

def skipDigits (cursor : Cursor) : Cursor := (cursor.span Char.isDigit).2

def skipExponent (letter : Cursor) : Except Error Cursor :=
  let cursor := match letter.next.rest with
    | '+' :: _ => letter.next.next
    | '-' :: _ => letter.next.next
    | _ => letter.next
  match cursor.rest with
  | [] => cursor.fail .invalidNumber
  | c :: _ => if c.isDigit then .ok (skipDigits cursor) else cursor.failNext .invalidNumber

def skipExponent? (cursor : Cursor) : Except Error Cursor :=
  match cursor.rest with
  | 'e' :: _ => skipExponent cursor
  | 'E' :: _ => skipExponent cursor
  | _ => .ok cursor

def skipFraction? (cursor : Cursor) : Except Error Cursor :=
  match cursor.rest with
  | '.' :: _ =>
    if cursor.next.rest.head?.any Char.isDigit then skipExponent? (skipDigits cursor.next)
    else cursor.next.failNext .invalidNumber
  | _ => skipExponent? cursor

def skipNumber (cursor : Cursor) : Except Error Cursor :=
  match cursor.rest with
  | [] => cursor.fail .invalidNumber
  | first :: _ =>
    if first = '0' then
      if cursor.next.rest.head?.any Char.isDigit then cursor.next.failNext .invalidNumber
      else skipFraction? cursor.next
    else if first.isDigit then skipFraction? (skipDigits cursor)
    else cursor.failNext .invalidNumber

end Parlor.Json
