import Parlor.Json.Error
import Parlor.Text.Bytes

namespace Parlor.Json

def hexValue? (c : Char) : Option Nat :=
  if '0' ≤ c && c ≤ '9' then some (c.toNat - '0'.toNat)
  else if 'a' ≤ c && c ≤ 'f' then some (c.toNat - 'a'.toNat + 10)
  else if 'A' ≤ c && c ≤ 'F' then some (c.toNat - 'A'.toNat + 10)
  else none

def hexUnit? (a b c d : Char) : Option Nat := do
  pure ((((← hexValue? a) * 16 + (← hexValue? b)) * 16 + (← hexValue? c)) * 16 + (← hexValue? d))

def unitError (cursor : Cursor) : Error :=
  ⟨if Text.byteLength (cursor.rest.take 4) < 4 then .endInString else .invalidEscape,
    cursor.position.afterBytes 4 cursor.rest⟩

def readUnit (cursor : Cursor) : Except Error (Nat × Cursor) :=
  match cursor.rest with
  | a :: b :: c :: d :: _ =>
    match hexUnit? a b c d with
    | some unit => .ok (unit, cursor.next.next.next.next)
    | none => .error (unitError cursor)
  | _ => .error (unitError cursor)

def isLeading (unit : Nat) : Bool := 0xd800 ≤ unit && unit ≤ 0xdbff

def isTrailing (unit : Nat) : Bool := 0xdc00 ≤ unit && unit ≤ 0xdfff

def pairChar (leading trailing : Nat) : Char :=
  Char.ofNat ((leading - 0xd800) * 0x400 + (trailing - 0xdc00) + 0x10000)

def readLast (leading : Nat) (cursor : Cursor) : Except Error (Char × Cursor) := do
  let (trailing, after) ← readUnit cursor
  if isTrailing trailing then .ok (pairChar leading trailing, after)
  else after.fail .loneSurrogate

def readTrailing (leading : Nat) (cursor : Cursor) : Except Error (Char × Cursor) :=
  match cursor.rest with
  | [] => cursor.fail .endInString
  | backslash :: rest =>
    if backslash = '\\' then
      match rest with
      | [] => cursor.next.fail .endInString
      | sign :: _ =>
        if sign = 'u' then readLast leading cursor.next.next
        else cursor.next.failNext .unexpectedEndOfEscape
    else cursor.failNext .unexpectedEndOfEscape

def readUnits (cursor : Cursor) : Except Error (Char × Cursor) := do
  let (unit, after) ← readUnit cursor
  if isTrailing unit then after.fail .loneSurrogate
  else if isLeading unit then readTrailing unit after
  else .ok (Char.ofNat unit, after)

def escapeLetter? : Char → Option Char
  | '"' => some '"'
  | '\\' => some '\\'
  | '/' => some '/'
  | 'b' => some '\x08'
  | 'f' => some '\x0c'
  | 'n' => some '\n'
  | 'r' => some '\r'
  | 't' => some '\t'
  | _ => none

def readEscape (cursor : Cursor) : Except Error (Char × Cursor) :=
  match cursor.rest with
  | [] => cursor.fail .endInString
  | 'u' :: _ => readUnits cursor.next
  | letter :: _ =>
    match escapeLetter? letter with
    | some c => .ok (c, cursor.next)
    | none => cursor.failNext .invalidEscape

def isControl (c : Char) : Bool := c.toNat < 0x20

theorem length_of_readUnit {cursor after : Cursor} {unit : Nat}
    (h : readUnit cursor = .ok (unit, after)) : after.rest.length < cursor.rest.length := by
  obtain ⟨rest, position⟩ := cursor
  unfold readUnit at h
  split at h
  · rename_i a b c d tail same
    simp only at same
    subst same
    split at h
    · cases h
      simp only [Cursor.next, List.length_cons]
      omega
    · cases h
  · cases h

private theorem except_bind_ok {ε α β : Type} {x : Except ε α} {f : α → Except ε β} {b : β}
    (h : x >>= f = .ok b) : ∃ a, x = .ok a ∧ f a = .ok b := by
  cases x with
  | error e => cases h
  | ok a => exact ⟨a, rfl, h⟩

theorem length_of_readLast {leading : Nat} {cursor after : Cursor} {c : Char}
    (h : readLast leading cursor = .ok (c, after)) : after.rest.length < cursor.rest.length := by
  unfold readLast at h
  obtain ⟨⟨trailing, behind⟩, read, h⟩ := except_bind_ok h
  have := length_of_readUnit read
  simp only at h
  split at h
  · simp only [Except.ok.injEq, Prod.mk.injEq] at h
    exact h.2 ▸ this
  · cases h

theorem length_of_readTrailing {leading : Nat} {cursor after : Cursor} {c : Char}
    (h : readTrailing leading cursor = .ok (c, after)) :
    after.rest.length < cursor.rest.length := by
  obtain ⟨rest, position⟩ := cursor
  unfold readTrailing at h
  split at h
  · cases h
  · rename_i backslash tail same
    simp only at same
    subst same
    split at h
    · split at h
      · cases h
      · split at h
        · have := length_of_readLast h
          simp only [Cursor.next, List.length_cons] at this ⊢
          omega
        · cases h
    · cases h

theorem length_of_readUnits {cursor after : Cursor} {c : Char}
    (h : readUnits cursor = .ok (c, after)) : after.rest.length < cursor.rest.length := by
  unfold readUnits at h
  obtain ⟨⟨unit, behind⟩, read, h⟩ := except_bind_ok h
  have := length_of_readUnit read
  simp only at h
  split at h
  · cases h
  · split at h
    · exact Nat.lt_trans (length_of_readTrailing h) this
    · cases h
      exact this

theorem length_of_readEscape {cursor after : Cursor} {c : Char}
    (h : readEscape cursor = .ok (c, after)) : after.rest.length < cursor.rest.length := by
  obtain ⟨rest, position⟩ := cursor
  unfold readEscape at h
  split at h
  · cases h
  · rename_i tail same
    simp only at same
    subst same
    exact Nat.lt_trans (length_of_readUnits h) (by simp [Cursor.next])
  · rename_i letter tail _ same
    simp only at same
    subst same
    split at h
    · cases h
      simp [Cursor.next]
    · cases h

def readChars (cursor : Cursor) : Except Error (List Char × Cursor) :=
  match _rest : cursor.rest with
  | [] => cursor.fail .endInString
  | '"' :: _ => .ok ([], cursor.next)
  | '\\' :: _ =>
    match _escape : readEscape cursor.next with
    | .error error => .error error
    | .ok (c, after) => do
      let (text, last) ← readChars after
      pure (c :: text, last)
  | c :: _ =>
    if isControl c then cursor.next.fail .controlCharacter
    else do
      let (text, last) ← readChars cursor.next
      pure (c :: text, last)
termination_by cursor.rest.length
decreasing_by
  · exact Nat.lt_of_lt_of_le (length_of_readEscape _escape) cursor.length_next_le
  · exact Cursor.length_next_lt (by simp [_rest])

def skipEscape (cursor : Cursor) : Except Error Cursor :=
  match cursor.rest with
  | [] => cursor.fail .endInString
  | 'u' :: _ => (readUnit cursor.next).map Prod.snd
  | letter :: _ =>
    if (escapeLetter? letter).isSome then .ok cursor.next else cursor.failNext .invalidEscape

theorem length_of_skipEscape {cursor after : Cursor} (h : skipEscape cursor = .ok after) :
    after.rest.length < cursor.rest.length := by
  obtain ⟨rest, position⟩ := cursor
  unfold skipEscape at h
  split at h
  · cases h
  · rename_i tail same
    simp only at same
    subst same
    cases read : readUnit (Cursor.next ⟨'u' :: tail, position⟩) with
    | error error => simp [read, Except.map] at h
    | ok found =>
      simp only [read, Except.map, Except.ok.injEq] at h
      subst h
      exact Nat.lt_trans (length_of_readUnit read) (by simp [Cursor.next])
  · rename_i letter tail _ same
    simp only at same
    subst same
    split at h
    · cases h
      simp [Cursor.next]
    · cases h

def skipChars (cursor : Cursor) : Except Error Cursor :=
  match _rest : cursor.rest with
  | [] => cursor.fail .endInString
  | '"' :: _ => .ok cursor.next
  | '\\' :: _ =>
    match _escape : skipEscape cursor.next with
    | .error error => .error error
    | .ok after => skipChars after
  | c :: _ => if isControl c then cursor.fail .controlCharacter else skipChars cursor.next
termination_by cursor.rest.length
decreasing_by
  · exact Nat.lt_of_lt_of_le (length_of_skipEscape _escape) cursor.length_next_le
  · exact Cursor.length_next_lt (by simp [_rest])

end Parlor.Json
