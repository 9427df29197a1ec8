namespace Parlor.Json

structure Position where
  line : Nat
  column : Nat
deriving DecidableEq, Repr

def Position.after (position : Position) (c : Char) : Position :=
  if c = '\n' then ⟨position.line + 1, 0⟩
  else ⟨position.line, position.column + c.utf8Size⟩

def Position.afterBytes (position : Position) : Nat → List Char → Position
  | 0, _ => position
  | _, [] => position
  | bytes, c :: text =>
    if c.utf8Size ≤ bytes then (position.after c).afterBytes (bytes - c.utf8Size) text
    else ⟨position.line, position.column + bytes⟩

structure Cursor where
  rest : List Char
  position : Position
deriving DecidableEq, Repr

namespace Cursor

def ofString (text : String) : Cursor := ⟨text.toList, 1, 0⟩

def next (cursor : Cursor) : Cursor :=
  match cursor.rest with
  | [] => cursor
  | c :: rest => ⟨rest, cursor.position.after c⟩

def nextBytePosition (cursor : Cursor) : Position := cursor.position.afterBytes 1 cursor.rest

def isSpace (c : Char) : Bool := c = ' ' || c = '\n' || c = '\t' || c = '\r'

def skipSpaceFrom (position : Position) : List Char → Cursor
  | [] => ⟨[], position⟩
  | c :: rest =>
    if isSpace c then skipSpaceFrom (position.after c) rest else ⟨c :: rest, position⟩

def skipSpace (cursor : Cursor) : Cursor := skipSpaceFrom cursor.position cursor.rest

def skipWhileFrom (p : Char → Bool) (position : Position) : List Char → Cursor
  | [] => ⟨[], position⟩
  | c :: rest =>
    if p c then skipWhileFrom p (position.after c) rest else ⟨c :: rest, position⟩

def span (p : Char → Bool) (cursor : Cursor) : List Char × Cursor :=
  (cursor.rest.takeWhile p, skipWhileFrom p cursor.position cursor.rest)

theorem length_next_le (cursor : Cursor) : cursor.next.rest.length ≤ cursor.rest.length := by
  obtain ⟨rest, position⟩ := cursor
  cases rest <;> simp [next]

theorem length_next_lt {cursor : Cursor} (h : cursor.rest ≠ []) :
    cursor.next.rest.length < cursor.rest.length := by
  obtain ⟨rest, position⟩ := cursor
  cases rest with
  | nil => exact absurd rfl h
  | cons => simp [next]

end Cursor

end Parlor.Json
