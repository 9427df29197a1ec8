import Parlor.Text.Space

namespace Parlor.Text

def IsWord (word : List Char) : Prop := word ≠ [] ∧ ∀ c ∈ word, isSpace c = false

instance (word : List Char) : Decidable (IsWord word) :=
  decidable_of_iff (word ≠ [] ∧ word.all (!isSpace ·) = true) (by simp [IsWord])

theorem isBlank_iff {text : String} : isBlank text = true ↔ ∀ c ∈ text.toList, isSpace c = true :=
  List.all_eq_true

theorem isBlank_eq_false_iff {text : String} :
    isBlank text = false ↔ ∃ c ∈ text.toList, isSpace c = false := by
  rw [isBlank, List.all_eq_false]
  simp only [Bool.not_eq_true]

theorem growFirst_ne_nil (c : Char) (words : List (List Char)) : growFirst c words ≠ [] := by
  cases words <;> simp [growFirst]

theorem growFirst_append {c : Char} {words : List (List Char)} (nonempty : words ≠ [])
    (others : List (List Char)) : growFirst c words ++ others = growFirst c (words ++ others) := by
  cases words with
  | nil => exact absurd rfl nonempty
  | cons word words => rfl

theorem words_eq_nil_iff {text : List Char} : words text = [] ↔ ∀ c ∈ text, isSpace c = true := by
  induction text with
  | nil => simp [words]
  | cons c text ih =>
    rw [words, List.forall_mem_cons, ← ih]
    by_cases space : isSpace c = true
    · simp [space]
    · rw [if_neg space]
      split <;> simp [space, growFirst_ne_nil]

theorem words_space {space : Char} (isBreak : isSpace space = true) (text : List Char) :
    words (space :: text) = words text := by
  rw [words, if_pos isBreak]

theorem words_append {space : Char} (isBreak : isSpace space = true) (text rest : List Char) :
    words (text ++ space :: rest) = words text ++ words rest := by
  induction text with
  | nil => exact words_space isBreak rest
  | cons c text ih =>
    by_cases breaks : isSpace c = true
    · rw [List.cons_append, words_space breaks, words_space breaks, ih]
    · rw [List.cons_append, words, if_neg breaks, words, if_neg breaks, ih]
      cases text with
      | nil => simp [isBreak, words]
      | cons d text =>
        by_cases ends : isSpace d = true
        · simp [ends]
        · have nonempty : words (d :: text) ≠ [] := fun none =>
            ends (words_eq_nil_iff.1 none d List.mem_cons_self)
          simp [ends, growFirst_append nonempty]

theorem words_of_isWord {word : List Char} (h : IsWord word) : words word = [word] := by
  obtain ⟨nonempty, solid⟩ := h
  induction word with
  | nil => exact absurd rfl nonempty
  | cons c word ih =>
    obtain ⟨first, solid⟩ := List.forall_mem_cons.1 solid
    cases word with
    | nil => simp [words, first]
    | cons d word =>
      have second : isSpace d = false := solid d List.mem_cons_self
      rw [words, ih (by simp) solid]
      simp [first, second, growFirst]

theorem words_append_space {word : List Char} (nonempty : word ≠ [])
    (solid : ∀ c ∈ word, isSpace c = false) {space : Char} (isBreak : isSpace space = true)
    (text : List Char) : words (word ++ space :: text) = word :: words text := by
  rw [words_append isBreak, words_of_isWord ⟨nonempty, solid⟩, List.singleton_append]

theorem words_blank_append {blank : List Char} (h : ∀ c ∈ blank, isSpace c = true)
    (text : List Char) : words (blank ++ text) = words text := by
  induction blank with
  | nil => rfl
  | cons c blank ih =>
    obtain ⟨space, blank⟩ := List.forall_mem_cons.1 h
    rw [List.cons_append, words_space space, ih blank]

theorem words_append_blank {blank : List Char} (h : ∀ c ∈ blank, isSpace c = true)
    (text : List Char) : words (text ++ blank) = words text := by
  cases blank with
  | nil => rw [List.append_nil]
  | cons c blank =>
    obtain ⟨space, blank⟩ := List.forall_mem_cons.1 h
    rw [words_append space, words_eq_nil_iff.2 blank, List.append_nil]

theorem words_append_gap {gap : List Char} (nonempty : gap ≠ [])
    (h : ∀ c ∈ gap, isSpace c = true) (left right : List Char) :
    words (left ++ gap ++ right) = words left ++ words right := by
  obtain ⟨c, gap, rfl⟩ := List.exists_cons_of_ne_nil nonempty
  obtain ⟨space, blank⟩ := List.forall_mem_cons.1 h
  rw [List.append_assoc, List.cons_append, words_append space, words_blank_append blank]

theorem blank_takeWhile (text : List Char) : ∀ c ∈ text.takeWhile isSpace, isSpace c = true :=
  fun c member => List.all_eq_true.1 List.all_takeWhile c member

theorem words_trimStart (text : List Char) : words (trimStart text) = words text := by
  rw [← words_blank_append (blank_takeWhile text), trimStart, List.takeWhile_append_dropWhile]

theorem words_trim (text : List Char) : words (trim text) = words text := by
  have blank : ∀ c ∈ ((trimStart text).reverse.takeWhile isSpace).reverse, isSpace c = true := by
    intro c member
    exact blank_takeWhile _ c (List.mem_reverse.1 member)
  have whole : trim text ++ ((trimStart text).reverse.takeWhile isSpace).reverse =
      trimStart text := by
    rw [trim, trimStart, ← List.reverse_append, List.takeWhile_append_dropWhile,
      List.reverse_reverse]
  rw [← words_append_blank blank, whole, words_trimStart]

theorem isWord_of_mem_growFirst {c : Char} (solid : isSpace c = false)
    {words : List (List Char)} (h : ∀ word ∈ words, IsWord word) {word : List Char}
    (member : word ∈ growFirst c words) : IsWord word := by
  cases words with
  | nil =>
    obtain rfl := List.mem_singleton.1 member
    exact ⟨by simp, by simpa using solid⟩
  | cons grown others =>
    rcases List.mem_cons.1 member with rfl | member
    · obtain ⟨-, later⟩ := h grown List.mem_cons_self
      exact ⟨by simp, List.forall_mem_cons.2 ⟨solid, later⟩⟩
    · exact h word (List.mem_cons_of_mem _ member)

theorem isWord_of_mem_words {text word : List Char} (h : word ∈ words text) : IsWord word := by
  induction text generalizing word with
  | nil => cases h
  | cons c text ih =>
    rw [words] at h
    split at h
    · exact ih h
    · rename_i breaks
      have solid : isSpace c = false := Bool.eq_false_iff.2 breaks
      split at h
      · rcases List.mem_cons.1 h with rfl | member
        · exact ⟨by simp, by simpa using solid⟩
        · exact ih member
      · exact isWord_of_mem_growFirst solid (fun _ => ih) h

theorem words_intercalate {parts : List (List Char)} (h : ∀ part ∈ parts, IsWord part) :
    words ([' '].intercalate parts) = parts := by
  induction parts with
  | nil => rfl
  | cons part parts ih =>
    obtain ⟨here, later⟩ := List.forall_mem_cons.1 h
    cases parts with
    | nil => rw [List.intercalate_singleton, words_of_isWord here]
    | cons next parts =>
      rw [List.intercalate_cons_cons, List.append_assoc, List.singleton_append,
        words_append_space here.1 here.2 (by decide), ih later]

end Parlor.Text
