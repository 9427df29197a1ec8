import Parlor.Story.Template

namespace Parlor.Story
open Text

def LabelChar (c : Char) : Prop := ('a' ≤ c ∧ c ≤ 'z') ∨ ('A' ≤ c ∧ c ≤ 'Z') ∨ c = '_'

def IsLabel (label : String) : Prop := label.toList ≠ [] ∧ ∀ c ∈ label.toList, LabelChar c

def IsNumber (id : String) : Prop := id.toList ≠ [] ∧ ∀ c ∈ id.toList, isDigit c = true

def Blank.Proper : Blank → Prop
  | .numbered id label => IsNumber id ∧ IsLabel label
  | .unnumbered label => IsLabel label
  | .reference id => IsNumber id

/-- No hint, or anything but a closing bracket between brackets, with spaces and tabs behind it. -/
inductive IsHint : List Char → Prop
  | absent : IsHint []
  | bracketed (inner padding : List Char) (closed : ']' ∉ inner)
      (blank : ∀ c ∈ padding, c = ' ' ∨ c = '\t') : IsHint ('[' :: (inner ++ ']' :: padding))

structure Occurrence.Proper (occurrence : Occurrence) : Prop where
  hint : IsHint occurrence.hint
  blank : occurrence.blank.Proper

/-- The grammar: a text is a hint and a blank in braces. -/
def Spells (text : List Char) (blank : Blank) : Prop :=
  ∃ hint, IsHint hint ∧ blank.Proper ∧ text = hint ++ blank.written

theorem spells_iff {text : List Char} {blank : Blank} :
    Spells text blank ↔
      ∃ occurrence : Occurrence, occurrence.Proper ∧ occurrence.blank = blank ∧
        text = occurrence.written := by
  constructor
  · rintro ⟨hint, isHint, proper, rfl⟩
    exact ⟨⟨hint, blank⟩, ⟨isHint, proper⟩, rfl, rfl⟩
  · rintro ⟨⟨hint, _⟩, ⟨isHint, proper⟩, rfl, rfl⟩
    exact ⟨hint, isHint, proper, rfl⟩

theorem isLabelChar_iff {c : Char} : isLabelChar c = true ↔ LabelChar c := by
  have upper : c.isUpper = true ↔ 'A' ≤ c ∧ c ≤ 'Z' := decide_eq_true_iff
  have lower : c.isLower = true ↔ 'a' ≤ c ∧ c ≤ 'z' := by
    show (decide ('a' ≤ c) && decide (c ≤ 'z')) = true ↔ _
    rw [Bool.and_eq_true, decide_eq_true_iff, decide_eq_true_iff]
  have alpha : c.isAlpha = true ↔ c.isUpper = true ∨ c.isLower = true := Bool.or_eq_true_iff
  rw [isLabelChar, Bool.or_eq_true, alpha, upper, lower, decide_eq_true_iff, LabelChar, or_assoc,
    or_left_comm]

instance : DecidablePred LabelChar := fun _ => decidable_of_iff _ isLabelChar_iff

-- Only the characters of the text are looked at, not all characters there are.
instance : DecidablePred IsLabel := fun label =>
  have := List.decidableBAll LabelChar label.toList
  inferInstanceAs (Decidable (_ ∧ _))

instance : DecidablePred IsNumber := fun id =>
  have := List.decidableBAll (isDigit · = true) id.toList
  inferInstanceAs (Decidable (_ ∧ _))

instance : DecidablePred Blank.Proper
  | .numbered id label => inferInstanceAs (Decidable (IsNumber id ∧ IsLabel label))
  | .unnumbered label => inferInstanceAs (Decidable (IsLabel label))
  | .reference id => inferInstanceAs (Decidable (IsNumber id))

theorem isPadding_iff {c : Char} : isPadding c = true ↔ c = ' ' ∨ c = '\t' := by
  simp [isPadding]

theorem zeroDigits_range : ∀ first ∈ zeroDigits, first = 48 ∨ 1632 ≤ first := by decide

theorem isDigit_eq_false {c : Char} (after : 58 ≤ c.toNat) (before : c.toNat < 1632) :
    isDigit c = false := by
  simp only [isDigit, List.any_eq_false, Bool.and_eq_true, decide_eq_true_eq]
  intro first member inside
  have range := zeroDigits_range first member
  omega

theorem LabelChar.isDigit_eq_false {c : Char} (h : LabelChar c) : isDigit c = false := by
  simp only [LabelChar, Char.le_def, UInt32.le_iff_toNat_le] at h
  change (97 ≤ c.toNat ∧ c.toNat ≤ 122) ∨ (65 ≤ c.toNat ∧ c.toNat ≤ 90) ∨ c = '_' at h
  rcases h with h | h | rfl
  · exact Story.isDigit_eq_false (by omega) (by omega)
  · exact Story.isDigit_eq_false (by omega) (by omega)
  · decide

theorem takeWhile_run {inClass : Char → Bool} {run rest : List Char} {stop : Char}
    (inside : ∀ c ∈ run, inClass c = true) (outside : inClass stop = false) :
    (run ++ stop :: rest).takeWhile inClass = run := by
  rw [List.takeWhile_append_of_pos inside, List.takeWhile_cons_of_neg (by simp [outside]),
    List.append_nil]

theorem dropWhile_run {inClass : Char → Bool} {run rest : List Char} {stop : Char}
    (inside : ∀ c ∈ run, inClass c = true) (outside : inClass stop = false) :
    (run ++ stop :: rest).dropWhile inClass = stop :: rest := by
  rw [List.dropWhile_append_of_pos inside, List.dropWhile_cons_of_neg (by simp [outside])]

theorem readLabel_append {label : String} (isLabel : IsLabel label) (rest : List Char) :
    readLabel (label.toList ++ '\x7d' :: rest) = some (label, rest) := by
  have inside : ∀ c ∈ label.toList, isLabelChar c = true :=
    fun c member => isLabelChar_iff.2 (isLabel.2 c member)
  have outside : isLabelChar '\x7d' = false := by decide
  simp only [readLabel, takeWhile_run inside outside, dropWhile_run inside outside]
  rw [if_neg (by simpa using isLabel.1), String.ofList_toList]

theorem takeWhile_isDigit_label {label : String} (isLabel : IsLabel label) (rest : List Char) :
    (label.toList ++ rest).takeWhile isDigit = [] := by
  obtain ⟨c, text, found⟩ := List.exists_cons_of_ne_nil isLabel.1
  have first : LabelChar c := isLabel.2 c (by simp [found])
  rw [found, List.cons_append, List.takeWhile_cons_of_neg (by simp [first.isDigit_eq_false])]

theorem readBraces_append {blank : Blank} (proper : blank.Proper) (rest : List Char) :
    readBraces (blank.written ++ rest) = some (blank, rest) := by
  cases blank with
  | numbered id label =>
    obtain ⟨isNumber, isLabel⟩ := proper
    have outside : isDigit ':' = false := by decide
    simp only [Blank.written, readBraces, List.cons_append, List.append_assoc, List.nil_append,
      takeWhile_run isNumber.2 outside, dropWhile_run isNumber.2 outside,
      readLabel_append isLabel, String.ofList_toList, Option.map_some]
    rw [if_neg (by simpa using isNumber.1)]
  | unnumbered label =>
    simp only [Blank.written, readBraces, List.cons_append, List.append_assoc, List.nil_append,
      takeWhile_isDigit_label proper, readLabel_append proper, Option.map_some,
      List.isEmpty_nil, if_true]
  | reference id =>
    have outside : isDigit '\x7d' = false := by decide
    simp only [Blank.written, readBraces, List.cons_append, List.append_assoc, List.nil_append,
      takeWhile_run proper.2 outside, dropWhile_run proper.2 outside, String.ofList_toList]
    rw [if_neg (by simpa using proper.1)]

theorem Blank.written_eq_cons (blank : Blank) : ∃ text, blank.written = '\x7b' :: text := by
  cases blank <;> exact ⟨_, rfl⟩

theorem readHint_append {inner padding : List Char} (closed : ']' ∉ inner)
    (blank : ∀ c ∈ padding, c = ' ' ∨ c = '\t') (text : List Char) :
    readHint ('[' :: (inner ++ ']' :: padding) ++ '\x7b' :: text) =
      some ('[' :: (inner ++ ']' :: padding), '\x7b' :: text) := by
  have inside : ∀ c ∈ inner, decide (c ≠ ']') = true := by
    intro c member
    apply decide_eq_true
    rintro rfl
    exact closed member
  have bracket : decide (']' ≠ ']') = false := by decide
  have padded : ∀ c ∈ padding, isPadding c = true :=
    fun c member => isPadding_iff.2 (blank c member)
  have brace : isPadding '\x7b' = false := by decide
  rw [List.cons_append, List.append_assoc, List.cons_append]
  simp only [readHint, takeWhile_run inside bracket, dropWhile_run inside bracket,
    takeWhile_run padded brace, dropWhile_run padded brace, List.cons_append]

theorem readBlank_append {occurrence : Occurrence} (proper : occurrence.Proper)
    (rest : List Char) : readBlank (occurrence.written ++ rest) = some (occurrence, rest) := by
  obtain ⟨hint, blank⟩ := occurrence
  obtain ⟨isHint, isProper⟩ := proper
  have braces := readBraces_append isProper rest
  obtain ⟨text, opened⟩ := blank.written_eq_cons
  rw [Occurrence.written, List.append_assoc, readBlank]
  rw [opened, List.cons_append] at braces ⊢
  cases isHint with
  | absent => simp [readHint, braces]
  | bracketed inner padding closed blankSpace =>
    rw [readHint_append closed blankSpace]
    simp [braces]

theorem isLabel_of_readLabel {text rest : List Char} {label : String}
    (h : readLabel text = some (label, rest)) : IsLabel label := by
  unfold readLabel at h
  simp only at h
  split at h
  · split at h
    · cases h
    · rename_i nonempty
      cases h
      refine ⟨by simpa using nonempty, ?_⟩
      intro c member
      rw [String.toList_ofList] at member
      exact isLabelChar_iff.1 (List.all_eq_true.1 List.all_takeWhile c member)
  · cases h

theorem isNumber_takeWhile {text : List Char} (h : text.takeWhile isDigit ≠ []) :
    IsNumber (String.ofList (text.takeWhile isDigit)) := by
  rw [IsNumber, String.toList_ofList]
  refine ⟨h, ?_⟩
  intro c member
  exact List.all_eq_true.1 List.all_takeWhile c member

theorem proper_of_readBraces {text rest : List Char} {blank : Blank}
    (h : readBraces text = some (blank, rest)) : blank.Proper := by
  unfold readBraces at h
  split at h
  · rename_i text
    simp only at h
    split at h
    · obtain ⟨⟨label, tail⟩, found, same⟩ := Option.map_eq_some_iff.1 h
      cases same
      exact isLabel_of_readLabel found
    · rename_i digits
      have isNumber := isNumber_takeWhile (by simpa using digits)
      split at h
      · cases h
        exact isNumber
      · obtain ⟨⟨label, tail⟩, found, same⟩ := Option.map_eq_some_iff.1 h
        cases same
        exact ⟨isNumber, isLabel_of_readLabel found⟩
      · cases h
  · cases h

theorem isHint_of_readHint {text rest hint : List Char} (h : readHint text = some (hint, rest)) :
    IsHint hint := by
  unfold readHint at h
  split at h
  · rename_i text
    split at h
    · rename_i after found
      cases h
      refine .bracketed _ _ ?_ ?_
      · intro member
        simpa using List.all_eq_true.1 List.all_takeWhile _ member
      · intro c member
        exact isPadding_iff.1 (List.all_eq_true.1 List.all_takeWhile c member)
    · cases h
  · cases h

theorem proper_of_readBlank {text rest : List Char} {occurrence : Occurrence}
    (h : readBlank text = some (occurrence, rest)) : occurrence.Proper := by
  unfold readBlank at h
  split at h
  · rename_i hint after found
    obtain ⟨⟨blank, tail⟩, braces, same⟩ := Option.map_eq_some_iff.1 h
    cases same
    exact ⟨isHint_of_readHint found, proper_of_readBraces braces⟩
  · obtain ⟨⟨blank, tail⟩, braces, same⟩ := Option.map_eq_some_iff.1 h
    cases same
    exact ⟨.absent, proper_of_readBraces braces⟩

/-- A blank is read where one is written, and what is read is what is written there. -/
theorem readBlank_eq_some_iff {text rest : List Char} {occurrence : Occurrence} :
    readBlank text = some (occurrence, rest) ↔
      occurrence.Proper ∧ text = occurrence.written ++ rest := by
  constructor
  · intro h
    exact ⟨proper_of_readBlank h, readBlank_eq h⟩
  · rintro ⟨proper, rfl⟩
    exact readBlank_append proper rest

theorem readBlank_eq_none_iff {text : List Char} :
    readBlank text = none ↔ ∀ written blank rest, Spells written blank → text ≠ written ++ rest := by
  constructor
  · rintro nothing written blank rest spells rfl
    obtain ⟨occurrence, proper, -, rfl⟩ := spells_iff.1 spells
    rw [readBlank_append proper] at nothing
    cases nothing
  · intro nothing
    cases found : readBlank text with
    | none => rfl
    | some result =>
      obtain ⟨occurrence, rest⟩ := result
      obtain ⟨proper, same⟩ := readBlank_eq_some_iff.1 found
      exact absurd same (nothing _ _ rest (spells_iff.2 ⟨occurrence, proper, rfl, rfl⟩))

theorem spells_unique {text rest : List Char} {occurrence : Occurrence}
    (h : readBlank text = some (occurrence, rest)) {written after : List Char} {blank : Blank}
    (spells : Spells written blank) (same : text = written ++ after) :
    written = occurrence.written ∧ blank = occurrence.blank ∧ after = rest := by
  obtain ⟨other, proper, rfl, rfl⟩ := spells_iff.1 spells
  rw [same, readBlank_append proper] at h
  cases h
  exact ⟨rfl, rfl, rfl⟩

theorem Spells.ne_nil {text : List Char} {blank : Blank} (h : Spells text blank) : text ≠ [] := by
  obtain ⟨hint, -, -, rfl⟩ := h
  simp [blank.written_ne_nil]

end Parlor.Story
