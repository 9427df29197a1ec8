import Parlor.Proofs.Text.Words
import Parlor.Text.Lowercase

namespace Parlor.Text

/-- The forms of the characters of a run lie apart from another run: outside of its range, or
between the characters that it covers. -/
def CaseRun.clears (run other : CaseRun) : Bool :=
  (run.apply run.last).blt other.first || other.last.blt (run.apply run.first) ||
    ((run.apply run.first + other.first) % 2 == 1 && other.step == 2 &&
      (run.step == 2 || run.first == run.last))

def CaseRun.Proper (run : CaseRun) : Prop :=
  0 ≤ run.first + run.shift ∧
    (run.last + run.shift < 0x130 ∨ 0x130 < run.first + run.shift) ∧
    (run.last + run.shift < 0xd800 ∨
      0xdfff < run.first + run.shift ∧ run.last + run.shift < 0x110000)

instance (run : CaseRun) : Decidable run.Proper := inferInstanceAs (Decidable (_ ∧ _))

def CaseRun.ranges (run : CaseRun) : List (Nat × Nat) :=
  [(run.first, run.last), (run.apply run.first, run.apply run.last)]

def caseRanges : List (Nat × Nat) :=
  casedRanges ++ caseIgnorableRanges ++ caseRuns.flatMap CaseRun.ranges

def spaceRanges : List (Nat × Nat) := [
  (0x9, 0xd), (0x20, 0x20), (0x85, 0x85), (0xa0, 0xa0), (0x1680, 0x1680), (0x2000, 0x200a),
  (0x2028, 0x2029), (0x202f, 0x202f), (0x205f, 0x205f), (0x3000, 0x3000)
]

theorem caseRuns_proper : ∀ run ∈ caseRuns, run.Proper := by decide +kernel

theorem caseRuns_clear :
    (caseRuns.all fun run => caseRuns.all fun other => run.clears other) = true := by
  decide +kernel

theorem spaceRanges_apart :
    (spaceRanges.all fun space => caseRanges.all fun range =>
      space.2.blt range.1 || range.2.blt space.1) = true := by
  decide +kernel

theorem isSpace_iff {c : Char} : isSpace c = true ↔ inRanges spaceRanges c.toNat = true := by
  simp [isSpace, inRanges, spaceRanges, Char.le_def, UInt32.le_iff_toNat_le, Char.ext_iff,
    ← UInt32.toNat_inj]
  omega

theorem isSpace_eq_false_of_mem {range : Nat × Nat} (member : range ∈ caseRanges) {c : Char}
    (first : range.1 ≤ c.toNat) (last : c.toNat ≤ range.2) : isSpace c = false := by
  rw [Bool.eq_false_iff, ne_eq, isSpace_iff, inRanges, List.any_eq_true]
  rintro ⟨space, isSpace, inside⟩
  have apart := List.all_eq_true.1 (List.all_eq_true.1 spaceRanges_apart space isSpace) range member
  simp only [Bool.or_eq_true, Nat.blt_eq, Bool.and_eq_true, decide_eq_true_eq] at apart inside
  omega

theorem inRanges_eq_false_of_isSpace {ranges : List (Nat × Nat)} (sub : ranges ⊆ caseRanges)
    {c : Char} (space : isSpace c = true) : inRanges ranges c.toNat = false := by
  rw [Bool.eq_false_iff, ne_eq, inRanges, List.any_eq_true]
  rintro ⟨range, member, inside⟩
  simp only [Bool.and_eq_true, decide_eq_true_eq] at inside
  rw [isSpace_eq_false_of_mem (sub member) inside.1 inside.2] at space
  cases space

theorem isCased_eq_false_of_isSpace {c : Char} (space : isSpace c = true) : isCased c = false :=
  inRanges_eq_false_of_isSpace (fun _ member => by simp [caseRanges, member]) space

theorem isCaseIgnorable_eq_false_of_isSpace {c : Char} (space : isSpace c = true) :
    isCaseIgnorable c = false :=
  inRanges_eq_false_of_isSpace (fun _ member => by simp [caseRanges, member]) space

namespace CaseRun

variable {run other : CaseRun} {c : Char}

theorem ranges_subset (member : run ∈ caseRuns) : run.ranges ⊆ caseRanges := fun _ inside =>
  List.mem_append_right _ (List.mem_flatMap.2 ⟨run, member, inside⟩)

theorem covers_iff {code : Nat} : run.covers code = true ↔
    (run.first ≤ code ∧ code ≤ run.last) ∧ (code - run.first) % run.step = 0 := by
  simp [covers]

theorem toNat_apply (member : run ∈ caseRuns) {code : Nat} (covers : run.covers code = true) :
    (Char.ofNat (run.apply code)).toNat = run.apply code := by
  obtain ⟨low, -, high⟩ := caseRuns_proper run member
  obtain ⟨⟨first, last⟩, -⟩ := covers_iff.1 covers
  have valid : (run.apply code).isValidChar := by
    simp only [Nat.isValidChar, apply]
    omega
  rw [Char.ofNat, dif_pos valid]
  rfl

theorem apply_bounds {code : Nat} (covers : run.covers code = true) :
    run.apply run.first ≤ run.apply code ∧ run.apply code ≤ run.apply run.last := by
  obtain ⟨⟨first, last⟩, -⟩ := covers_iff.1 covers
  simp only [apply]
  omega

theorem isSpace_eq_false (member : run ∈ caseRuns) (covers : run.covers c.toNat = true) :
    isSpace c = false := by
  obtain ⟨⟨first, last⟩, -⟩ := covers_iff.1 covers
  exact isSpace_eq_false_of_mem (ranges_subset member List.mem_cons_self) first last

theorem isSpace_apply_eq_false (member : run ∈ caseRuns) (covers : run.covers c.toNat = true) :
    isSpace (.ofNat (run.apply c.toNat)) = false := by
  obtain ⟨first, last⟩ := apply_bounds covers
  rw [← toNat_apply member covers] at first last
  have inside : (run.apply run.first, run.apply run.last) ∈ run.ranges := by simp [ranges]
  exact isSpace_eq_false_of_mem (ranges_subset member inside) first last

theorem covers_apply_eq_false (member : run ∈ caseRuns) (member' : other ∈ caseRuns) {code : Nat}
    (covers : run.covers code = true) : other.covers (run.apply code) = false := by
  have clear := List.all_eq_true.1 (List.all_eq_true.1 caseRuns_clear run member) other member'
  obtain ⟨low, -, -⟩ := caseRuns_proper run member
  obtain ⟨⟨first, last⟩, even⟩ := covers_iff.1 covers
  rw [Bool.eq_false_iff, ne_eq, covers_iff]
  rintro ⟨⟨first', last'⟩, even'⟩
  simp only [clears, Bool.or_eq_true, Nat.blt_eq, Bool.and_eq_true, beq_iff_eq, apply] at clear
  simp only [apply] at first' last' even'
  rcases clear with (below | above) | ⟨⟨odd, two'⟩, two | single⟩
  · omega
  · omega
  · rw [two] at even
    rw [two'] at even'
    omega
  · rw [two'] at even'
    omega

theorem apply_ne_dotted (member : run ∈ caseRuns) {code : Nat} (covers : run.covers code = true) :
    Char.ofNat (run.apply code) ≠ '\u0130' := by
  intro same
  have number := toNat_apply member covers
  obtain ⟨low, apart, -⟩ := caseRuns_proper run member
  obtain ⟨⟨first, last⟩, -⟩ := covers_iff.1 covers
  rw [same] at number
  have dotted : ('\u0130').toNat = 0x130 := rfl
  simp only [dotted, apply] at number
  omega

end CaseRun

/-- A character that is its own lower-case form, wherever it stands. -/
def Settled (c : Char) : Prop := c ≠ 'Σ' ∧ lowerChar c = [c]

instance (c : Char) : Decidable (Settled c) := inferInstanceAs (Decidable (_ ∧ _))

theorem settled_of_uncovered {c : Char} (uncovered : ∀ run ∈ caseRuns, run.covers c.toNat = false)
    (plain : c ≠ '\u0130') : Settled c := by
  constructor
  · rintro rfl
    have covered : caseRuns.any (·.covers ('Σ').toNat) = true := by decide +kernel
    obtain ⟨run, member, covers⟩ := List.any_eq_true.1 covered
    rw [uncovered run member] at covers
    cases covers
  · have none : caseRuns.find? (·.covers c.toNat) = none := by
      simpa using uncovered
    rw [lowerChar, if_neg plain, none]

theorem exists_covers_of_not_settled {c : Char} (unsettled : ¬ Settled c) (plain : c ≠ '\u0130') :
    ∃ run ∈ caseRuns, run.covers c.toNat = true ∧
      lowerChar c = [.ofNat (run.apply c.toNat)] := by
  cases found : caseRuns.find? (·.covers c.toNat) with
  | none => exact absurd (settled_of_uncovered (by simpa using found) plain) unsettled
  | some run =>
    have covers := List.find?_some found
    refine ⟨run, List.mem_of_find?_eq_some found, covers, ?_⟩
    rw [lowerChar, if_neg plain, found]

theorem of_mem_lowerChar {c d : Char} (h : d ∈ lowerChar c) :
    Settled d ∧ (isSpace c = false → isSpace d = false) := by
  by_cases dotted : c = '\u0130'
  · subst dotted
    have forms : d = 'i' ∨ d = '\u0307' := by simpa [lowerChar] using h
    rcases forms with rfl | rfl
    · exact ⟨by decide +kernel, fun _ => by decide⟩
    · exact ⟨by decide +kernel, fun _ => by decide⟩
  by_cases settled : Settled c
  · rw [settled.2, List.mem_singleton] at h
    subst h
    exact ⟨settled, id⟩
  obtain ⟨run, member, covers, form⟩ := exists_covers_of_not_settled settled dotted
  rw [form, List.mem_singleton] at h
  subst h
  refine ⟨settled_of_uncovered ?_ (CaseRun.apply_ne_dotted member covers), fun _ =>
    CaseRun.isSpace_apply_eq_false member covers⟩
  intro other member'
  rw [CaseRun.toNat_apply member covers]
  exact CaseRun.covers_apply_eq_false member member' covers

theorem settled_of_isSpace {c : Char} (space : isSpace c = true) : Settled c := by
  apply settled_of_uncovered
  · intro run member
    rw [Bool.eq_false_iff]
    intro covers
    rw [CaseRun.isSpace_eq_false member covers] at space
    cases space
  · rintro rfl
    cases space

theorem lowerChar_ne_nil (c : Char) : lowerChar c ≠ [] := by
  unfold lowerChar
  split
  · simp
  · split <;> simp

theorem settled_lowerSigma (before after : List Char) :
    Settled (lowerSigma before after) ∧ isSpace (lowerSigma before after) = false := by
  unfold lowerSigma
  split
  · exact ⟨by decide +kernel, by decide⟩
  · exact ⟨by decide +kernel, by decide⟩

theorem of_mem_lowerAfter {before text : List Char} {d : Char} (h : d ∈ lowerAfter before text) :
    Settled d ∧ ((∀ c ∈ text, isSpace c = false) → isSpace d = false) := by
  induction text generalizing before with
  | nil => cases h
  | cons c text ih =>
    rw [lowerAfter] at h
    rcases List.mem_append.1 h with here | later
    · split at here
      · obtain rfl := List.mem_singleton.1 here
        obtain ⟨settled, solid⟩ := settled_lowerSigma before text
        exact ⟨settled, fun _ => solid⟩
      · obtain ⟨settled, solid⟩ := of_mem_lowerChar here
        exact ⟨settled, fun all => solid (all c List.mem_cons_self)⟩
    · obtain ⟨settled, solid⟩ := ih later
      exact ⟨settled, fun all => solid fun d member => all d (List.mem_cons_of_mem _ member)⟩

theorem lowerAfter_of_settled {text : List Char} (settled : ∀ c ∈ text, Settled c)
    (before : List Char) : lowerAfter before text = text := by
  induction text generalizing before with
  | nil => rfl
  | cons c text ih =>
    obtain ⟨⟨plain, form⟩, settled⟩ := List.forall_mem_cons.1 settled
    rw [lowerAfter, if_neg plain, form, ih settled, List.singleton_append]

theorem lowercase_eq_self_iff {text : List Char} :
    lowercase text = text ↔ ∀ c ∈ text, Settled c := by
  constructor
  · intro same c member
    rw [← same] at member
    exact (of_mem_lowerAfter member).1
  · exact fun settled => lowerAfter_of_settled settled []

theorem lowercase_lowercase (text : List Char) : lowercase (lowercase text) = lowercase text :=
  lowercase_eq_self_iff.2 fun _ member => (of_mem_lowerAfter member).1

theorem lowerAfter_append {text : List Char} (plain : 'Σ' ∉ text) (before rest : List Char) :
    lowerAfter before (text ++ rest) =
      lowerAfter before text ++ lowerAfter (text.reverse ++ before) rest := by
  induction text generalizing before with
  | nil => rfl
  | cons c text ih =>
    rw [List.mem_cons, not_or] at plain
    obtain ⟨first, plain⟩ := plain
    simp only [List.cons_append, lowerAfter, if_neg (Ne.symm first), ih plain, List.reverse_cons,
      List.append_assoc, List.nil_append]

theorem exists_sigma_mem_lowerAfter {text : List Char} (h : 'Σ' ∈ text) (before : List Char) :
    'σ' ∈ lowerAfter before text ∨ 'ς' ∈ lowerAfter before text := by
  induction text generalizing before with
  | nil => cases h
  | cons c text ih =>
    rw [lowerAfter, List.mem_append, List.mem_append]
    rcases List.mem_cons.1 h with rfl | later
    · rw [if_pos rfl, lowerSigma]
      split
      · exact .inr (.inl List.mem_cons_self)
      · exact .inl (.inl List.mem_cons_self)
    · rcases ih later (c :: before) with found | found
      · exact .inl (.inr found)
      · exact .inr (.inr found)

theorem startsCased_append_space {space : Char} (isBreak : isSpace space = true)
    (text rest : List Char) : startsCased (text ++ space :: rest) = startsCased text := by
  induction text with
  | nil =>
    simp [startsCased, isCased_eq_false_of_isSpace isBreak,
      isCaseIgnorable_eq_false_of_isSpace isBreak]
  | cons c text ih =>
    by_cases ignorable : isCaseIgnorable c = true
    · simpa [startsCased, ignorable] using ih
    · simp [startsCased, ignorable]

theorem lowerAfter_space {space : Char} (isBreak : isSpace space = true)
    (before further text : List Char) :
    lowerAfter (before ++ space :: further) text = lowerAfter before text := by
  induction text generalizing before with
  | nil => rfl
  | cons c text ih =>
    rw [lowerAfter, lowerAfter, ← List.cons_append, ih, lowerSigma, lowerSigma,
      startsCased_append_space isBreak]

theorem lowerAfter_append_space {space : Char} (isBreak : isSpace space = true)
    (before text rest : List Char) :
    lowerAfter before (text ++ space :: rest) =
      lowerAfter before text ++ space :: lowercase rest := by
  induction text generalizing before with
  | nil =>
    obtain ⟨plain, form⟩ := settled_of_isSpace isBreak
    have behind : lowerAfter (space :: before) rest = lowercase rest :=
      lowerAfter_space isBreak [] before rest
    show lowerAfter before (space :: rest) = space :: lowercase rest
    rw [lowerAfter, if_neg plain, form, behind, List.singleton_append]
  | cons c text ih =>
    rw [List.cons_append, lowerAfter, lowerAfter, ih, lowerSigma, lowerSigma,
      startsCased_append_space isBreak, List.append_assoc]

theorem lowercase_append_space {space : Char} (isBreak : isSpace space = true)
    (text rest : List Char) :
    lowercase (text ++ space :: rest) = lowercase text ++ space :: lowercase rest :=
  lowerAfter_append_space isBreak [] text rest

theorem IsWord.lowercase {word : List Char} (h : IsWord word) : IsWord (lowercase word) := by
  obtain ⟨nonempty, solid⟩ := h
  refine ⟨?_, fun d member => (of_mem_lowerAfter member).2 solid⟩
  obtain ⟨c, rest, rfl⟩ := List.exists_cons_of_ne_nil nonempty
  rw [Text.lowercase, lowerAfter]
  split <;> simp [lowerChar_ne_nil]

theorem words_lowercase_of_solid {word : List Char} (solid : ∀ c ∈ word, isSpace c = false) :
    words (lowercase word) = (words word).map lowercase := by
  cases word with
  | nil => rfl
  | cons c word =>
    have isWord : IsWord (c :: word) := ⟨by simp, solid⟩
    rw [words_of_isWord isWord, words_of_isWord isWord.lowercase, List.map_singleton]

theorem words_lowercase (text : List Char) :
    words (lowercase text) = (words text).map lowercase := by
  -- The text is a word so far, which may be empty, and what is left to be read.
  suffices general : ∀ text word : List Char, (∀ c ∈ word, isSpace c = false) →
      words (lowercase (word ++ text)) = (words (word ++ text)).map lowercase by
    exact general text [] (by simp)
  intro text
  induction text with
  | nil =>
    intro word solid
    rw [List.append_nil, words_lowercase_of_solid solid]
  | cons c text ih =>
    intro word solid
    by_cases space : isSpace c = true
    · have here := ih [] (by simp)
      rw [List.nil_append] at here
      rw [lowercase_append_space space, words_append space, words_append space, here,
        words_lowercase_of_solid solid, List.map_append]
    · rw [← List.singleton_append, ← List.append_assoc]
      apply ih
      intro d member
      rcases List.mem_append.1 member with earlier | last
      · exact solid d earlier
      · rw [List.mem_singleton.1 last]
        exact Bool.eq_false_iff.2 space

end Parlor.Text
