import Mathlib.Computability.Language
import Parlor.Json.Read
/-!
# Texts between double quotes

The ways to write down a text: each character stands for itself or is spelled by an escape, of one
letter, by its code unit or by a pair of them. All of them are read as the text
(`reads_readText`).
-/

namespace Parlor.Json

section Reads

variable {α β : Type}

/-- Any of the texts is read as the value, up to its end. -/
def Reads (read : Reader α) (value : α) (texts : Language Char) : Prop :=
  ∀ text ∈ texts, ∀ rest position,
    read ⟨text ++ rest, position⟩ = .ok (value, ⟨rest, text.foldl Position.after position⟩)

theorem Reads.bind {read : Reader α} {value : α} {texts : Language Char} {next : α → Reader β}
    {result : β} {more : Language Char} (first : Reads read value texts)
    (second : Reads (next value) result more) :
    Reads (fun cursor => do
      let (value, after) ← read cursor
      next value after) result (texts * more) := by
  intro text written rest position
  obtain ⟨front, front_mem, back, back_mem, rfl⟩ := Language.mem_mul.1 written
  rw [List.append_assoc, List.foldl_append]
  show (read _ >>= _) = _
  rw [first front front_mem]
  exact second back back_mem rest _

theorem Reads.map {read : Reader α} {value : α} {texts : Language Char} (f : α → β)
    (reads : Reads read value texts) :
    Reads (fun cursor => do
      let (value, after) ← read cursor
      pure (f value, after)) (f value) texts := by
  intro text written rest position
  show (read _ >>= _) = _
  rw [reads text written]
  rfl

end Reads

def space : Language Char := {text | ∀ c ∈ text, c ∈ [' ', '\n', '\t', '\r']}

def token (c : Char) : Language Char := space * {[c]}

theorem mem_space_iff {text : List Char} :
    text ∈ space ↔ ∀ c ∈ text, c ∈ [' ', '\n', '\t', '\r'] :=
  Iff.rfl

theorem nil_mem_space : [] ∈ space := mem_space_iff.2 (by simp)

theorem append_mem_token {spaces : List Char} (blank : spaces ∈ space) (c : Char) :
    spaces ++ [c] ∈ token c :=
  Language.append_mem_mul blank rfl

theorem mem_token (c : Char) : [c] ∈ token c := append_mem_token nil_mem_space c

theorem skipSpaceFrom_append {spaces : List Char} (blank : spaces ∈ space) (rest : List Char)
    (position : Position) :
    Cursor.skipSpaceFrom position (spaces ++ rest) =
      Cursor.skipSpaceFrom (spaces.foldl Position.after position) rest := by
  induction spaces generalizing position with
  | nil => rfl
  | cons first spaces ih =>
    have here : Cursor.isSpace first = true := by
      have member := blank first List.mem_cons_self
      simpa [Cursor.isSpace, or_assoc] using member
    rw [List.cons_append, Cursor.skipSpaceFrom, if_pos here, List.foldl_cons]
    exact ih (fun c member => blank c (List.mem_cons_of_mem _ member)) _

theorem skipSpace_token {c : Char} (solid : Cursor.isSpace c = false) {text : List Char}
    (written : text ∈ token c) (rest : List Char) (position : Position) :
    ∃ before : Position, Cursor.skipSpace ⟨text ++ rest, position⟩ = ⟨c :: rest, before⟩ ∧
      before.after c = text.foldl Position.after position := by
  obtain ⟨spaces, blank, last, rfl, rfl⟩ := Language.mem_mul.1 written
  refine ⟨spaces.foldl Position.after position, ?_, ?_⟩
  · rw [Cursor.skipSpace, List.append_assoc, skipSpaceFrom_append blank]
    simp [Cursor.skipSpaceFrom, solid]
  · rw [List.foldl_append]
    rfl

theorem Reads.behind_token {α : Type} {c : Char} (solid : Cursor.isSpace c = false)
    {read next : Reader α} {value : α} {texts : Language Char} (reads : Reads next value texts)
    (passes : ∀ start rest before, Cursor.skipSpace start = ⟨c :: rest, before⟩ →
      read start = next ⟨rest, before.after c⟩) :
    Reads read value (token c * texts) := by
  intro text written rest position
  obtain ⟨front, front_mem, back, back_mem, rfl⟩ := Language.mem_mul.1 written
  obtain ⟨before, skipped, behind⟩ := skipSpace_token solid front_mem (back ++ rest) position
  rw [List.append_assoc, passes _ _ _ skipped, behind, List.foldl_append]
  exact reads back back_mem rest _

theorem reads_expect {α : Type} {c : Char} (solid : Cursor.isSpace c = false) (expected : String)
    {read : Reader α} {value : α} {texts : Language Char} (reads : Reads read value texts) :
    Reads (expect c expected read) value (token c * texts) := by
  refine reads.behind_token solid fun start rest before skipped => ?_
  simp only [expect, skipped, if_true, Cursor.next]

def hexDigit (value : Nat) : Language Char :=
  {text | value < 16 ∧ (text = [value.digitChar] ∨ text = [value.digitChar.toUpper])}

def hexUnit (unit : Nat) : Language Char :=
  hexDigit (unit / 0x1000) * (hexDigit (unit / 0x100 % 0x10) *
    (hexDigit (unit / 0x10 % 0x10) * hexDigit (unit % 0x10)))

def unitDigits (unit : Nat) : List Char :=
  [(unit / 0x1000).digitChar, (unit / 0x100 % 0x10).digitChar, (unit / 0x10 % 0x10).digitChar,
    (unit % 0x10).digitChar]

theorem unitDigits_mem {unit : Nat} (small : unit < 0x10000) : unitDigits unit ∈ hexUnit unit := by
  have digit {value : Nat} (below : value < 16) : [value.digitChar] ∈ hexDigit value :=
    ⟨below, .inl rfl⟩
  have last := Language.append_mem_mul (digit (Nat.mod_lt (unit / 0x10) (by decide)))
    (digit (Nat.mod_lt unit (by decide)))
  have first : unit / 0x1000 < 16 := by omega
  exact Language.append_mem_mul (digit first)
    (Language.append_mem_mul (digit (Nat.mod_lt (unit / 0x100) (by decide))) last)

theorem hexValue?_digitChar : ∀ value < 16, hexValue? value.digitChar = some value ∧
    hexValue? value.digitChar.toUpper = some value := by
  decide

theorem hexValue?_of_mem {value : Nat} {text : List Char} (written : text ∈ hexDigit value) :
    ∃ c, text = [c] ∧ hexValue? c = some value := by
  obtain ⟨small, rfl | rfl⟩ := written
  · exact ⟨_, rfl, (hexValue?_digitChar value small).1⟩
  · exact ⟨_, rfl, (hexValue?_digitChar value small).2⟩

theorem reads_readUnit (unit : Nat) : Reads readUnit unit (hexUnit unit) := by
  intro text written rest position
  obtain ⟨_, first, _, behind, rfl⟩ := Language.mem_mul.1 written
  obtain ⟨_, second, _, behind', rfl⟩ := Language.mem_mul.1 behind
  obtain ⟨_, third, _, fourth, rfl⟩ := Language.mem_mul.1 behind'
  obtain ⟨a, rfl, valueA⟩ := hexValue?_of_mem first
  obtain ⟨b, rfl, valueB⟩ := hexValue?_of_mem second
  obtain ⟨c, rfl, valueC⟩ := hexValue?_of_mem third
  obtain ⟨d, rfl, valueD⟩ := hexValue?_of_mem fourth
  have value : hexUnit? a b c d = some unit := by
    simp only [hexUnit?, valueA, valueB, valueC, valueD, Option.bind_eq_bind, Option.bind_some,
      Option.pure_def, Option.some.injEq]
    omega
  simp only [readUnit, List.cons_append, List.nil_append, value]
  rfl

def shortEscapes : List (Char × Char) :=
  [('"', '"'), ('\\', '\\'), ('/', '/'), ('b', '\x08'), ('f', '\x0c'), ('n', '\n'), ('r', '\r'),
    ('t', '\t')]

inductive Spells (c : Char) : List Char → Prop where
  | raw (allowed : 0x20 ≤ c.toNat) (unquoted : c ≠ '"') (unescaped : c ≠ '\\') : Spells c [c]
  | short {letter : Char} (known : (letter, c) ∈ shortEscapes) : Spells c ['\\', letter]
  | unit {digits : List Char} (written : digits ∈ hexUnit c.toNat) :
      Spells c ('\\' :: 'u' :: digits)
  | pair {high low : Nat} {first second : List Char} (isHigh : high < 0x400) (isLow : low < 0x400)
      (value : c.toNat = 0x10000 + high * 0x400 + low) (first_mem : first ∈ hexUnit (0xd800 + high))
      (second_mem : second ∈ hexUnit (0xdc00 + low)) :
      Spells c ('\\' :: 'u' :: first ++ '\\' :: 'u' :: second)

def spelled (c : Char) : Language Char := {text | Spells c text}

def closed (text : List Char) : Language Char := (text.map spelled).prod * {['"']}

def quoted (value : String) : Language Char := token '"' * closed value.toList

theorem append_mem_closed {c : Char} {here : List Char} (spells : Spells c here)
    {text later : List Char} (written : later ∈ closed text) :
    here ++ later ∈ closed (c :: text) := by
  rw [closed, List.map_cons, List.prod_cons, mul_assoc]
  exact Language.append_mem_mul spells written

theorem nil_mem_closed : ['"'] ∈ closed [] := by
  rw [closed, List.map_nil, List.prod_nil, one_mul]
  rfl

def isPlain (c : Char) : Bool := 0x20 ≤ c.toNat && c ≠ '"' && c ≠ '\\'

theorem raw_append_mem_closed (front : List Char) (plain : front.all isPlain = true)
    {text later : List Char} (written : later ∈ closed text) :
    front ++ later ∈ closed (front ++ text) := by
  induction front with
  | nil => exact written
  | cons c front ih =>
    rw [List.all_cons, Bool.and_eq_true] at plain
    obtain ⟨here, behind⟩ := plain
    simp only [isPlain, Bool.and_eq_true, decide_eq_true_eq] at here
    obtain ⟨⟨allowed, unquoted⟩, unescaped⟩ := here
    exact append_mem_closed (.raw allowed unquoted unescaped) (ih behind)

theorem plain_mem_quoted {value : String} (plain : value.toList.all isPlain = true) :
    ['"'] ++ (value.toList ++ ['"']) ∈ quoted value := by
  have inner := raw_append_mem_closed _ plain nil_mem_closed
  rw [List.append_nil] at inner
  exact Language.append_mem_mul (mem_token '"') inner

theorem exists_spells (c : Char) : ∃ written, Spells c written := by
  by_cases quote : c = '"'
  · have known : ('"', c) ∈ shortEscapes := by simp [shortEscapes, quote]
    exact ⟨_, .short known⟩
  by_cases backslash : c = '\\'
  · have known : ('\\', c) ∈ shortEscapes := by simp [shortEscapes, backslash]
    exact ⟨_, .short known⟩
  by_cases control : 0x20 ≤ c.toNat
  · exact ⟨_, .raw control quote backslash⟩
  · exact ⟨_, .unit (unitDigits_mem (by omega))⟩

theorem exists_mem_quoted (value : String) : ∃ text, text ∈ quoted value := by
  have chars (text : List Char) : ∃ written, written ∈ closed text := by
    induction text with
    | nil => exact ⟨_, nil_mem_closed⟩
    | cons c text ih =>
      obtain ⟨here, spells⟩ := exists_spells c
      obtain ⟨later, written⟩ := ih
      exact ⟨_, append_mem_closed spells written⟩
  obtain ⟨written, chars_mem⟩ := chars value.toList
  exact ⟨_, Language.append_mem_mul (mem_token '"') chars_mem⟩

theorem readEscape_short {letter c : Char} (known : (letter, c) ∈ shortEscapes)
    (rest : List Char) (position : Position) :
    readEscape ⟨letter :: rest, position⟩ = .ok (c, ⟨rest, position.after letter⟩) := by
  simp only [shortEscapes, List.mem_cons, Prod.mk.injEq, List.not_mem_nil, or_false] at known
  rcases known with h | h | h | h | h | h | h | h
  all_goals
    obtain ⟨rfl, rfl⟩ := h
    rfl

theorem readEscape_unit {c : Char} {digits : List Char} (written : digits ∈ hexUnit c.toNat)
    (rest : List Char) (position : Position) :
    readEscape ⟨'u' :: (digits ++ rest), position⟩ =
      .ok (c, ⟨rest, digits.foldl Position.after (position.after 'u')⟩) := by
  have valid := c.valid
  have whole : isTrailing c.toNat = false ∧ isLeading c.toNat = false := by
    simp only [isTrailing, isLeading, Bool.and_eq_false_iff, decide_eq_false_iff_not, Nat.not_le]
    simp only [UInt32.isValidChar, Nat.isValidChar] at valid
    simp only [Char.toNat]
    omega
  simp only [readEscape, readUnits, Cursor.next, reads_readUnit _ digits written]
  show (if isTrailing c.toNat then _ else if isLeading c.toNat then _ else _) = _
  rw [whole.1, whole.2]
  simp

theorem readEscape_pair {c : Char} {high low : Nat} {first second : List Char}
    (isHigh : high < 0x400) (isLow : low < 0x400)
    (value : c.toNat = 0x10000 + high * 0x400 + low) (first_mem : first ∈ hexUnit (0xd800 + high))
    (second_mem : second ∈ hexUnit (0xdc00 + low)) (rest : List Char) (position : Position) :
    readEscape ⟨'u' :: (first ++ '\\' :: 'u' :: (second ++ rest)), position⟩ =
      .ok (c, ⟨rest, (first ++ '\\' :: 'u' :: second).foldl Position.after
        (position.after 'u')⟩) := by
  have lead : isTrailing (0xd800 + high) = false ∧ isLeading (0xd800 + high) = true := by
    simp [isTrailing, isLeading]
    omega
  have trail : isTrailing (0xdc00 + low) = true := by
    simp [isTrailing]
    omega
  have made : pairChar (0xd800 + high) (0xdc00 + low) = c := by
    have number : (0xd800 + high - 0xd800) * 0x400 + (0xdc00 + low - 0xdc00) + 0x10000 =
        c.toNat := by
      omega
    rw [pairChar, number, Char.ofNat_toNat]
  simp only [readEscape, readUnits, Cursor.next, reads_readUnit _ first first_mem]
  show (if isTrailing (0xd800 + high) then _ else if isLeading (0xd800 + high) then _ else _) = _
  rw [lead.1, lead.2]
  simp only [Bool.false_eq_true, if_false, if_true, readTrailing, readLast, Cursor.next,
    reads_readUnit _ second second_mem]
  show (if isTrailing (0xdc00 + low) then _ else _) = _
  rw [trail, if_pos rfl, made, List.foldl_append]
  rfl

theorem readChars_close (rest : List Char) (position : Position) :
    readChars ⟨'"' :: rest, position⟩ = .ok ([], ⟨rest, position.after '"'⟩) := by
  rw [readChars]
  rfl

theorem readChars_raw {c : Char} (allowed : 0x20 ≤ c.toNat) (unquoted : c ≠ '"')
    (unescaped : c ≠ '\\') {rest text : List Char} {position : Position} {last : Cursor}
    (read : readChars ⟨rest, position.after c⟩ = .ok (text, last)) :
    readChars ⟨c :: rest, position⟩ = .ok (c :: text, last) := by
  have printable : isControl c = false := by simpa [isControl] using allowed
  rw [readChars]
  split
  · rename_i same
    cases same
  · rename_i same
    cases same
    exact absurd rfl unquoted
  · rename_i same
    cases same
    exact absurd rfl unescaped
  · rename_i same
    cases same
    rw [printable]
    simp only [Cursor.next, read]
    rfl

theorem readChars_escape {c : Char} {rest text : List Char} {position : Position}
    {after last : Cursor} (escape : readEscape ⟨rest, position.after '\\'⟩ = .ok (c, after))
    (read : readChars after = .ok (text, last)) :
    readChars ⟨'\\' :: rest, position⟩ = .ok (c :: text, last) := by
  rw [readChars]
  simp only [Cursor.next]
  split
  · rename_i same
    rw [escape] at same
    cases same
  · rename_i same
    rw [escape] at same
    cases same
    rw [read]
    rfl

theorem readChars_spelled {c : Char} {written : List Char} (spells : Spells c written)
    {rest text : List Char} {position : Position} {last : Cursor}
    (read : readChars ⟨rest, written.foldl Position.after position⟩ = .ok (text, last)) :
    readChars ⟨written ++ rest, position⟩ = .ok (c :: text, last) := by
  cases spells with
  | raw allowed unquoted unescaped => exact readChars_raw allowed unquoted unescaped read
  | short known => exact readChars_escape (readEscape_short known rest _) read
  | unit digits => exact readChars_escape (readEscape_unit digits rest _) read
  | pair isHigh isLow value first second =>
    refine readChars_escape ?_ read
    have escape := readEscape_pair isHigh isLow value first second rest (position.after '\\')
    simpa using escape

theorem reads_readChars (text : List Char) : Reads readChars text (closed text) := by
  intro written spelling rest position
  obtain ⟨front, front_mem, _, rfl, rfl⟩ := Language.mem_mul.1 spelling
  clear spelling
  induction text generalizing front position with
  | nil =>
    cases front_mem
    exact readChars_close rest position
  | cons c text ih =>
    obtain ⟨here, spells, later, later_mem, rfl⟩ := Language.mem_mul.1 front_mem
    rw [List.append_assoc, List.append_assoc, List.append_assoc, List.foldl_append]
    refine readChars_spelled spells ?_
    rw [← List.append_assoc]
    exact ih _ later later_mem

theorem reads_readString (value : String) : Reads readString value (closed value.toList) := by
  have reads := (reads_readChars value.toList).map String.ofList
  rwa [String.ofList_toList] at reads

theorem reads_readText (expected value : String) :
    Reads (readText expected) value (quoted value) :=
  reads_expect (by decide) expected (reads_readString value)

end Parlor.Json
