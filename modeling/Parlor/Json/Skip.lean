import Parlor.Json.Chars
import Parlor.Json.Number

namespace Parlor.Json

def expectLetters (cursor : Cursor) : List Char → Except Error Cursor
  | [] => .ok cursor
  | letter :: letters =>
    match cursor.rest with
    | [] => cursor.fail .endInValue
    | c :: _ =>
      if c = letter then expectLetters cursor.next letters else cursor.failNext .expectedIdent

inductive Enclosure where
  | list
  | object
deriving DecidableEq, Repr

namespace Enclosure

def closing : Enclosure → Char
  | list => ']'
  | object => '\x7d'

def unclosed : Enclosure → Fault
  | list => .endInList
  | object => .endInObject

def unseparated : Enclosure → Fault
  | list => .expectedCommaOrBracket
  | object => .expectedCommaOrBrace

end Enclosure

inductive Stage where
  | value
  | opened
  | complete
deriving DecidableEq, Repr

def skipScalar? (cursor : Cursor) : Option (Except Error Cursor) :=
  match cursor.rest with
  | 'n' :: _ => some (expectLetters cursor.next ['u', 'l', 'l'])
  | 't' :: _ => some (expectLetters cursor.next ['r', 'u', 'e'])
  | 'f' :: _ => some (expectLetters cursor.next ['a', 'l', 's', 'e'])
  | '-' :: _ => some (skipNumber cursor.next)
  | '"' :: _ => some (skipChars cursor.next)
  | c :: _ => if c.isDigit then some (skipNumber cursor) else none
  | [] => none

def skipKey (start : Cursor) : Except Error Cursor := do
  let cursor := start.skipSpace
  match cursor.rest with
  | [] => cursor.fail .endInObject
  | c :: _ =>
    if c = '"' then
      let after := (← skipChars cursor.next).skipSpace
      match after.rest with
      | [] => after.fail .endInObject
      | colon :: _ => if colon = ':' then pure after.next else after.failNext .expectedColon
    else cursor.failNext .keyNotString

def skipToValue (enclosure : Enclosure) (cursor : Cursor) : Except Error Cursor :=
  match enclosure with
  | .list => pure cursor
  | .object => skipKey cursor

def skipNested : Nat → Stage → List Enclosure → Cursor → Except Error Cursor
  | 0, _, _, cursor => cursor.fail .endInValue
  | steps + 1, .value, enclosures, start => do
    let cursor := start.skipSpace
    match cursor.rest with
    | [] => cursor.fail .endInValue
    | c :: _ =>
      if c = '[' then skipNested steps .opened (.list :: enclosures) cursor.next
      else if c = '\x7b' then skipNested steps .opened (.object :: enclosures) cursor.next
      else match skipScalar? cursor with
        | some result => skipNested steps .complete enclosures (← result)
        | none => cursor.failNext .expectedValue
  | _ + 1, _, [], cursor => pure cursor
  | steps + 1, .opened, enclosure :: outer, start => do
    let cursor := start.skipSpace
    match cursor.rest with
    | [] => cursor.fail enclosure.unclosed
    | c :: _ =>
      if c = enclosure.closing then skipNested steps .complete outer cursor.next
      else skipNested steps .value (enclosure :: outer) (← skipToValue enclosure cursor)
  | steps + 1, .complete, enclosure :: outer, start => do
    let cursor := start.skipSpace
    match cursor.rest with
    | [] => cursor.fail enclosure.unclosed
    | c :: _ =>
      if c = ',' then
        skipNested steps .value (enclosure :: outer) (← skipToValue enclosure cursor.next)
      else if c = enclosure.closing then skipNested steps .complete outer cursor.next
      else cursor.failNext enclosure.unseparated

def skipValue (cursor : Cursor) : Except Error Cursor :=
  skipNested (2 * cursor.rest.length + 2) .value [] cursor

end Parlor.Json
