import Parlor.Json.Skip
/-!
# Values that are expected

Readers for what a document is expected to say: a text, a list, an object. A reader stops at the
first thing that is wrong. Where another kind of value stands, a number or a word is read first,
so that the error shows behind it.
-/

namespace Parlor.Json

abbrev Reader (α : Type) := Cursor → Except Error (α × Cursor)

def wrongKind {α β : Type} (expected : String) (read : Except Error (β × Cursor))
    (found : β → Found) : Except Error (α × Cursor) :=
  match read with
  | .error error => .error error
  | .ok (value, after) => after.fail (.invalidType (found value) expected)

def unexpected {α : Type} (expected : String) : Reader α := fun cursor =>
  let word (letters : List Char) (found : Found) : Except Error (α × Cursor) :=
    wrongKind expected ((expectLetters cursor.next letters).map fun after => (found, after)) id
  match cursor.rest with
  | 'n' :: _ => word ['u', 'l', 'l'] .null
  | 't' :: _ => word ['r', 'u', 'e'] (.boolean true)
  | 'f' :: _ => word ['a', 'l', 's', 'e'] (.boolean false)
  | '-' :: _ => wrongKind expected (readNumber false cursor.next) id
  | '"' :: _ => wrongKind expected (readChars cursor.next) fun text => .string (String.ofList text)
  | '[' :: _ => cursor.fail (.invalidType .sequence expected)
  | '\x7b' :: _ => cursor.fail (.invalidType .map expected)
  | c :: _ =>
    if c.isDigit then wrongKind expected (readNumber true cursor) id
    else cursor.failNext .expectedValue
  | [] => cursor.fail .expectedValue

def expect {α : Type} (first : Char) (expected : String) (read : Reader α) : Reader α :=
  fun start =>
    let cursor := start.skipSpace
    match cursor.rest with
    | [] => cursor.fail .endInValue
    | c :: _ => if c = first then read cursor.next else unexpected expected cursor

def readString : Reader String := fun cursor => do
  let (text, after) ← readChars cursor
  pure (String.ofList text, after)

def readText (expected : String) : Reader String := expect '"' expected readString

def readColon (start : Cursor) : Except Error Cursor :=
  let cursor := start.skipSpace
  match cursor.rest with
  | [] => cursor.fail .endInObject
  | c :: _ => if c = ':' then pure cursor.next else cursor.failNext .expectedColon

def nextKey (first : Bool) (start : Cursor) : Except Error (Option Cursor) :=
  let cursor := start.skipSpace
  match cursor.rest with
  | [] => cursor.fail .endInObject
  | c :: _ =>
    if c = '\x7d' then pure none
    else if first then
      if c = '"' then pure (some cursor.next) else cursor.failNext .keyNotString
    else if c = ',' then
      let after := cursor.next.skipSpace
      match after.rest with
      | [] => after.fail .endInValue
      | d :: _ =>
        if d = '"' then pure (some after.next)
        else if d = '\x7d' then after.failNext .trailingComma
        else after.failNext .keyNotString
    else cursor.failNext .expectedCommaOrBrace

/-- Reads the members of an object up to its closing brace. Each member changes a state by a step,
which sees the key and begins behind it. The first number bounds the members. -/
def readMembers {σ : Type} (step : σ → String → Reader σ) :
    Nat → Bool → σ → Reader σ
  | 0, _, _, cursor => cursor.fail .endInObject
  | more + 1, first, state, cursor => do
    match ← nextKey first cursor with
    | none => pure (state, cursor.skipSpace.next)
    | some quoted =>
      let (key, afterKey) ← readString quoted
      let (changed, afterMember) ← step state key afterKey
      readMembers step more false changed afterMember

def readObject {σ : Type} (step : σ → String → Reader σ) (state : σ) : Reader σ := fun cursor =>
  readMembers step (cursor.rest.length + 1) true state cursor

def readMember {α : Type} (read : Reader α) : Reader α := fun cursor => do
  read (← readColon cursor)

def readEntries {α : Type} (read : Reader α) : Reader (List (String × α)) :=
  expect '\x7b' "a map" fun cursor => do
    let (entries, after) ← readObject
      (fun (entries : List (String × α)) key afterKey => do
        let (value, after) ← readMember read afterKey
        pure ((key, value) :: entries, after))
      [] cursor
    pure (entries.reverse, after)

def tryClose (start : Cursor) : Cursor :=
  let cursor := start.skipSpace
  match cursor.rest with
  | '\x7d' :: _ => cursor.next
  | _ => cursor

def nextElement (first : Bool) (start : Cursor) : Except Error (Option Cursor) :=
  let cursor := start.skipSpace
  match cursor.rest with
  | [] => cursor.fail .endInList
  | c :: _ =>
    if c = ']' then pure none
    else if first then pure (some cursor)
    else if c = ',' then
      let after := cursor.next.skipSpace
      match after.rest with
      | [] => after.fail .endInValue
      | d :: _ => if d = ']' then after.failNext .trailingComma else pure (some after)
    else cursor.failNext .expectedCommaOrBracket

def readElements {α : Type} (read : Reader α) : Nat → Bool → Reader (List α)
  | 0, _, cursor => cursor.fail .endInList
  | more + 1, first, cursor => do
    match ← nextElement first cursor with
    | none => pure ([], cursor.skipSpace.next)
    | some element =>
      let (value, after) ← read element
      let (values, last) ← readElements read more false after
      pure (value :: values, last)

def readList {α : Type} (read : Reader α) : Reader (List α) :=
  expect '[' "a sequence" fun cursor => readElements read (cursor.rest.length + 1) true cursor

def readElement? {α : Type} (read : Reader α) (first : Bool) : Reader (Option α) :=
  fun cursor => do
    match ← nextElement first cursor with
    | none => pure (none, cursor)
    | some element =>
      let (value, after) ← read element
      pure (some value, after)

def closeList (start : Cursor) : Except Error Cursor :=
  let cursor := start.skipSpace
  match cursor.rest with
  | [] => cursor.fail .endInList
  | c :: _ =>
    if c = ']' then pure cursor.next
    else if c = ',' then
      let after := cursor.next.skipSpace
      match after.rest with
      | ']' :: _ => after.failNext .trailingComma
      | _ => after.failNext .trailingCharacters
    else cursor.failNext .trailingCharacters

def readDocument {α : Type} (read : Reader α) (text : String) : Except Error α := do
  let (value, after) ← read (.ofString text)
  let last := after.skipSpace
  if last.rest.isEmpty then pure value else last.failNext .trailingCharacters

end Parlor.Json
