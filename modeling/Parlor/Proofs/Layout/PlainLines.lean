import Parlor.Proofs.Layout.Parts
import Mathlib.Data.List.Chain

namespace Parlor.Layout

def IsPlain (line : List Char) : Prop := ∀ c ∈ line, c = ' ' ∨ c.isAlphanum = true

/-- A plain line breaks behind spaces, and apart from that only where a word fills the width. -/
structure Words (width : Nat) (parts : List Fragment) : Prop where
  whole : ∀ part ∈ parts, ' ' ∉ part.text
  ended : parts.IsChain fun part _ => 0 < part.spaces ∨ width ≤ part.width

def Outside (first last : Nat) (ranges : List (Nat × Nat)) : Prop :=
  ∀ range ∈ ranges, last < range.1 ∨ range.2 < first

instance (first last : Nat) (ranges : List (Nat × Nat)) : Decidable (Outside first last ranges) :=
  inferInstanceAs (Decidable (∀ _ ∈ _, _))

theorem Outside.inRanges_eq_false {first last code : Nat} {ranges : List (Nat × Nat)}
    (outside : Outside first last ranges) (above : first ≤ code) (below : code ≤ last) :
    Text.inRanges ranges code = false := by
  rw [Text.inRanges, List.any_eq_false]
  intro range member inside
  simp only [Bool.and_eq_true, decide_eq_true_eq] at inside
  have := outside range member
  omega

theorem breakClass_eq_letter {first last : Nat}
    (outside : ∀ row ∈ breakTable, Outside first last row.2) (low : last < 0xac00) {c : Char}
    (above : first ≤ c.toNat) (below : c.toNat ≤ last) : breakClass c = .letter := by
  have none : breakTable.find? (fun row => Text.inRanges row.2 c.toNat) = none := by
    rw [List.find?_eq_none]
    intro row member
    simp [(outside row member).inRanges_eq_false above below]
  have early : ¬ (0xac00 ≤ c.toNat && c.toNat ≤ 0xd7a3) = true := by
    simp only [Bool.and_eq_true, decide_eq_true_eq]
    omega
  simp only [breakClass, if_neg early, none]

theorem toNat_of_isAlphanum {c : Char} (plain : c.isAlphanum = true) :
    (65 ≤ c.toNat ∧ c.toNat ≤ 90 ∨ 97 ≤ c.toNat ∧ c.toNat ≤ 122) ∨
      48 ≤ c.toNat ∧ c.toNat ≤ 57 := by
  have classes : c.isAlphanum =
      (decide (65 ≤ c.val ∧ c.val ≤ 90) || decide (97 ≤ c.val) && decide (c.val ≤ 122) ||
        decide (48 ≤ c.val) && decide (c.val ≤ 57)) := rfl
  simp only [classes, Bool.or_eq_true, Bool.and_eq_true, decide_eq_true_eq,
    UInt32.le_iff_toNat_le] at plain
  exact plain

theorem breakClass_of_digit {c : Char} (above : 48 ≤ c.toNat) (below : c.toNat ≤ 57) :
    breakClass c = .digit := by
  have digits : ∀ value < 10, breakClass (Char.ofNat (value + 48)) = .digit := by decide +kernel
  have same := digits (c.toNat - 48) (by omega)
  rwa [Nat.sub_add_cancel above, Char.ofNat_toNat] at same

theorem breakClass_of_isAlphanum {c : Char} (plain : c.isAlphanum = true) :
    breakClass c = .letter ∨ breakClass c = .digit := by
  have upper : ∀ row ∈ breakTable, Outside 65 90 row.2 := by decide +kernel
  have lower : ∀ row ∈ breakTable, Outside 97 122 row.2 := by decide +kernel
  rcases toNat_of_isAlphanum plain with (⟨above, below⟩ | ⟨above, below⟩) | ⟨above, below⟩
  · exact .inl (breakClass_eq_letter upper (by decide) above below)
  · exact .inl (breakClass_eq_letter lower (by decide) above below)
  · exact .inr (breakClass_of_digit above below)

theorem columns_of_isAlphanum {c : Char} (plain : c.isAlphanum = true) : columns c = 1 := by
  have printable : 32 ≤ c.toNat ∧ c.toNat ≤ 126 := by
    have bounds := toNat_of_isAlphanum plain
    omega
  have wide : Outside 32 126 wideRanges := by decide +kernel
  have extending : Outside 32 126 Text.extendRanges := by decide +kernel
  have ignored : Outside 32 126 ignoredRanges := by decide +kernel
  have shown : isControl c = false := by
    have control : isControl c = (decide (c.toNat < 32) || (127 ≤ c.toNat && c.toNat < 160)) := rfl
    rw [control]
    simp
    omega
  have signs : c.toNat ≠ 0x17d8 ∧ c.toNat ≠ 0x2d7f := by omega
  simp [columns, shown, signs.1, signs.2, wide.inRanges_eq_false printable.1 printable.2,
    extending.inRanges_eq_false printable.1 printable.2,
    ignored.inRanges_eq_false printable.1 printable.2]

theorem IsPlain.glyphs_eq {line : List Char} (plain : IsPlain line) :
    glyphs line = line.map fun c => ⟨c, false⟩ := by
  rw [glyphs]
  induction line with
  | nil => rfl
  | cons c rest ih =>
    obtain ⟨here, later⟩ := List.forall_mem_cons.1 plain
    have shown : c ≠ '\x1b' := by
      rintro rfl
      revert here
      decide
    simp [glyphsFrom, EscapeState.hides, EscapeState.after, shown, ih later]

/-- What is read of a plain line since its last break: a word, with spaces behind it. -/
structure Reading (part : List Char) (state : BreakState) : Prop where
  word : ' ' ∉ part.dropWhile (· = ' ')
  previous : state.previous = part.head?
  plain : IsPlain part
  last : state.last = none ∨ state.last = some .letter ∨ state.last = some .digit

theorem reading_start : Reading [] .start := ⟨by simp, rfl, by simp [IsPlain], .inl rfl⟩

theorem Reading.breaksBefore_space {part : List Char} {state : BreakState}
    (reading : Reading part state) : state.breaksBefore ' ' = false := by
  rcases reading.last with last | last | last <;> simp [BreakState.breaksBefore, last]

theorem Reading.after_space {part : List Char} {state : BreakState}
    (reading : Reading part state) : Reading (' ' :: part) (state.after ' ') := by
  refine ⟨?_, rfl, ?_, ?_⟩
  · simpa using reading.word
  · exact List.forall_mem_cons.2 ⟨.inl rfl, reading.plain⟩
  · rcases reading.last with last | last | last <;> simp [BreakState.after, last]

theorem ne_space_of_isAlphanum {c : Char} (plain : c.isAlphanum = true) : c ≠ ' ' := by
  rintro rfl
  cases plain

theorem not_clingsAtEnd {c : Char} (plain : c = ' ' ∨ c.isAlphanum = true) :
    clingsAtEnd c = false := by
  rw [clingsAtEnd, Bool.or_eq_false_iff, decide_eq_false_iff_not, decide_eq_false_iff_not]
  constructor
  · rintro rfl
    revert plain
    decide
  · rintro rfl
    revert plain
    decide

theorem Reading.breaksBefore_eq {part : List Char} {state : BreakState}
    (reading : Reading part state) {c : Char} (plain : c.isAlphanum = true) :
    state.breaksBefore c = decide (part.head? = some ' ') := by
  have inner := ne_space_of_isAlphanum plain
  have cling : state.previous.any clingsAtEnd = false := by
    rw [reading.previous]
    cases part with
    | nil => rfl
    | cons d part => exact not_clingsAtEnd (reading.plain d List.mem_cons_self)
  have spaced : state.spaced = decide (part.head? = some ' ') := by
    rw [BreakState.spaced, reading.previous]
  by_cases behind : part.head? = some ' '
  · rcases breakClass_of_isAlphanum plain with cls | cls <;>
      rcases reading.last with last | last | last <;>
        simp [BreakState.breaksBefore, inner, cling, spaced, behind, cls, last,
          BreakClass.clings, BreakClass.breaksAtSpace, BreakClass.endsBlank,
          BreakClass.neverFirst]
  · rcases breakClass_of_isAlphanum plain with cls | cls <;>
      rcases reading.last with last | last | last <;>
        simp [BreakState.breaksBefore, inner, cling, spaced, behind, cls, last,
          BreakClass.clings, BreakClass.breaksBetween, BreakClass.joins, BreakClass.endsBlank,
          BreakClass.neverFirst, BreakClass.isLetter, BreakClass.opens]

theorem Reading.last_after {part : List Char} {state : BreakState}
    (reading : Reading part state) {c : Char} (plain : c.isAlphanum = true) :
    (state.after c).last = some (breakClass c) := by
  have inner := ne_space_of_isAlphanum plain
  rcases breakClass_of_isAlphanum plain with cls | cls <;>
    rcases reading.last with last | last | last <;>
      simp [BreakState.after, inner, cls, last, BreakClass.clings, BreakClass.behind]

theorem Reading.after_begin {part : List Char} {state : BreakState}
    (reading : Reading part state) {c : Char} (plain : c.isAlphanum = true) :
    Reading [c] (state.after c) := by
  have inner := ne_space_of_isAlphanum plain
  refine ⟨by simp [inner, inner.symm], rfl, by simp [IsPlain, plain], .inr ?_⟩
  rw [reading.last_after plain, Option.some_inj, Option.some_inj]
  exact breakClass_of_isAlphanum plain

theorem Reading.after_continue {part : List Char} {state : BreakState}
    (reading : Reading part state) (within : part.head? ≠ some ' ') {c : Char}
    (plain : c.isAlphanum = true) : Reading (c :: part) (state.after c) := by
  have inner := ne_space_of_isAlphanum plain
  have begun := reading.after_begin plain
  have whole : part.dropWhile (· = ' ') = part := by
    cases part with
    | nil => rfl
    | cons d part => exact List.dropWhile_cons_of_neg (by simpa using within)
  refine ⟨?_, rfl, List.forall_mem_cons.2 ⟨.inr plain, reading.plain⟩, begun.last⟩
  rw [List.dropWhile_cons_of_neg (by simpa using inner), List.mem_cons, not_or]
  exact ⟨inner.symm, whole ▸ reading.word⟩

theorem Reading.space_not_mem {part : List Char} {state : BreakState}
    (reading : Reading part state) : ' ' ∉ (fragmentOf part).text := by
  simpa [fragmentOf] using reading.word

theorem words_cutAfter {part rest : List Char} {state : BreakState} (plain : IsPlain rest)
    (reading : Reading part state) :
    (∀ fragment ∈ cutAfter part [] state (rest.map (⟨·, false⟩)), ' ' ∉ fragment.text) ∧
      (cutAfter part [] state (rest.map (⟨·, false⟩))).IsChain
        fun fragment _ => 0 < fragment.spaces := by
  induction rest generalizing part state with
  | nil =>
    rw [List.map_nil, cutAfter]
    split
    · simp
    · simpa using reading.space_not_mem
  | cons c rest ih =>
    obtain ⟨here, later⟩ := List.forall_mem_cons.1 plain
    rw [List.map_cons, cutAfter]
    rcases here with rfl | here
    · simpa [reading.breaksBefore_space] using ih later reading.after_space
    · by_cases behind : part.head? = some ' '
      · -- A word that follows spaces begins a part.
        obtain ⟨whole, ended⟩ := ih later (reading.after_begin here)
        have spaced : 0 < (fragmentOf part).spaces := by
          cases part with
          | nil => cases behind
          | cons d part =>
            obtain rfl : d = ' ' := by simpa using behind
            simp [fragmentOf]
        simp only [reading.breaksBefore_eq here, behind, Bool.false_eq_true, if_false,
          decide_true, if_true]
        refine ⟨List.forall_mem_cons.2 ⟨reading.space_not_mem, whole⟩, ?_⟩
        exact List.isChain_cons.2 ⟨fun _ _ => spaced, ended⟩
      · simpa [reading.breaksBefore_eq here, behind] using
          ih later (reading.after_continue behind here)

theorem IsPlain.cutLine_eq {line : List Char} (plain : IsPlain line) :
    cutLine line = cutAfter [] [] .start (line.map (⟨·, false⟩)) := by
  have shown : (line.map fun c => (⟨c, false⟩ : Glyph)).filter (!·.hidden) =
      line.map (⟨·, false⟩) := by
    simp [List.filter_eq_self]
  have last : (line.map fun c => (⟨c, false⟩ : Glyph)).getLast?.any (clingsAtEnd ·.char) = false := by
    rw [List.getLast?_map, Option.any_map]
    cases found : line.getLast? with
    | none => rfl
    | some c => exact not_clingsAtEnd (plain c (List.mem_of_getLast? found))
  simp only [cutLine, plain.glyphs_eq, shown, last, Bool.false_eq_true, if_false]

theorem cutAtHyphens_eq {text : List Char} (part : List Char) (bare : '-' ∉ text) :
    cutAtHyphens part text = [part.reverse ++ text] := by
  induction text generalizing part with
  | nil => simp [cutAtHyphens]
  | cons c rest ih =>
    rw [List.mem_cons, not_or] at bare
    simp [cutAtHyphens, Ne.symm bare.1, ih _ bare.2]

theorem textWidth_eq_length {text : List Char} (plain : ∀ c ∈ text, c.isAlphanum = true) :
    textWidth text = text.length := by
  have line : IsPlain text := fun c member => .inr (plain c member)
  rw [textWidth, line.glyphs_eq]
  clear line
  induction text with
  | nil => rfl
  | cons c rest ih =>
    obtain ⟨here, later⟩ := List.forall_mem_cons.1 plain
    rw [List.map_cons, glyphsWidth, ih later, Glyph.width, List.length_cons, Nat.add_comm]
    simp [columns_of_isAlphanum here]

theorem isChain_cutEvery {width : Nat} {rest : List Char} (piece : List Char)
    (plain : ∀ c ∈ rest, c.isAlphanum = true) :
    (cutEvery width piece piece.length (rest.map (⟨·, false⟩))).IsChain
      fun text _ => width ≤ text.length := by
  induction rest generalizing piece with
  | nil => simp [cutEvery]
  | cons c rest ih =>
    obtain ⟨here, later⟩ := List.forall_mem_cons.1 plain
    have width_eq : (⟨c, false⟩ : Glyph).width = 1 := columns_of_isAlphanum here
    rw [List.map_cons, cutEvery, width_eq]
    split
    · rename_i full
      have filled : width ≤ piece.reverse.length := by
        simp only [Bool.and_eq_true, decide_eq_true_eq] at full
        rw [List.length_reverse]
        omega
      exact List.isChain_cons.2 ⟨fun _ _ => filled, ih [c] later⟩
    · exact ih (c :: piece) later

theorem isChain_fragmentsOf {width spaces : Nat} {texts : List (List Char)}
    (chain : texts.IsChain fun text _ => width ≤ textWidth text) :
    (fragmentsOf spaces texts).IsChain
      fun fragment _ => 0 < fragment.spaces ∨ width ≤ fragment.width := by
  induction texts using fragmentsOf.induct with
  | case1 => simp [fragmentsOf]
  | case2 text => simp [fragmentsOf]
  | case3 text rest more ih =>
    obtain ⟨here, later⟩ := List.isChain_cons.1 chain
    obtain ⟨next, rest, rfl⟩ := List.exists_cons_of_ne_nil more
    rw [fragmentsOf]
    · exact List.isChain_cons.2 ⟨fun _ _ => .inr (here next rfl), ih later⟩
    · exact more

theorem fragmentsOf_ne_nil {spaces : Nat} {texts : List (List Char)} (some : texts ≠ []) :
    fragmentsOf spaces texts ≠ [] := by
  induction texts using fragmentsOf.induct with
  | case1 => exact absurd rfl some
  | case2 text => simp [fragmentsOf]
  | case3 text rest more ih => simp [fragmentsOf]

theorem spaces_of_mem_getLast?_fragmentsOf {spaces : Nat} {texts : List (List Char)}
    {fragment : Fragment} (last : fragment ∈ (fragmentsOf spaces texts).getLast?) :
    fragment.spaces = spaces := by
  induction texts using fragmentsOf.induct with
  | case1 => simp [fragmentsOf] at last
  | case2 text =>
    obtain rfl : ⟨text, spaces⟩ = fragment := by simpa [fragmentsOf] using last
    rfl
  | case3 text rest more ih =>
    have some : fragmentsOf spaces rest ≠ [] := fragmentsOf_ne_nil more
    rw [fragmentsOf, List.getLast?_cons_of_ne_nil some] at last
    · exact ih last
    · exact more

theorem fragments_word {width : Nat} {part : Fragment}
    (word : ∀ c ∈ part.text, c.isAlphanum = true) :
    (cutAtHyphens [] part.text).flatMap (fun text => cutEvery width [] 0 (glyphs text)) =
      cutEvery width [] 0 (part.text.map (⟨·, false⟩)) := by
  have bare : '-' ∉ part.text := by
    intro member
    exact absurd (word _ member) (by decide)
  have plain : IsPlain part.text := fun c member => .inr (word c member)
  simp [cutAtHyphens_eq [] bare, plain.glyphs_eq]

theorem IsPlain.words {line : List Char} (plain : IsPlain line) (width : Nat) :
    Words width (fragments width line) := by
  obtain ⟨whole, ended⟩ := words_cutAfter plain reading_start
  rw [← plain.cutLine_eq] at whole ended
  have word : ∀ part ∈ cutLine line, ∀ c ∈ part.text, c.isAlphanum = true := by
    intro part member c inside
    have read : c ∈ (cutLine line).flatMap Fragment.written :=
      List.mem_flatMap.2 ⟨part, member, List.mem_append_left _ inside⟩
    rw [flatMap_written_cutLine] at read
    refine (plain c read).resolve_left ?_
    rintro rfl
    exact whole part member inside
  have pieces : ∀ part ∈ cutLine line, ∀ text ∈ cutEvery width [] 0 (part.text.map (⟨·, false⟩)),
      ∀ c ∈ text, c.isAlphanum = true := by
    intro part member text cut c inside
    have read := List.mem_flatten.2 ⟨text, cut, inside⟩
    rw [flatten_cutEvery] at read
    exact word part member c (by simpa using read)
  have eq : fragments width line = ((cutLine line).map fun part =>
      fragmentsOf part.spaces (cutEvery width [] 0 (part.text.map (⟨·, false⟩)))).flatten := by
    rw [fragments, ← List.flatMap_def]
    exact List.flatMap_congr fun part member => by rw [fragments_word (word part member)]
  rw [eq]
  constructor
  · intro fragment member
    obtain ⟨_, inner, member⟩ := List.mem_flatten.1 member
    obtain ⟨part, among, rfl⟩ := List.mem_map.1 inner
    intro inside
    exact absurd (pieces part among _ (mem_fragmentsOf member) _ inside) (by decide)
  · have some : [] ∉ (cutLine line).map fun part =>
        fragmentsOf part.spaces (cutEvery width [] 0 (part.text.map (⟨·, false⟩))) := by
      simp [fragmentsOf_ne_nil (cutEvery_ne_nil _ _ _ _)]
    rw [List.isChain_flatten some, List.forall_mem_map, List.isChain_map]
    constructor
    · intro part member
      refine isChain_fragmentsOf ((isChain_cutEvery [] (word part member)).imp_of_mem_imp ?_)
      intro text _ among _ filled
      rwa [textWidth_eq_length (pieces part member text among)]
    · refine ended.imp ?_
      intro part _ spaced fragment last _ _
      rw [spaces_of_mem_getLast?_fragmentsOf last]
      exact .inl spaced

end Parlor.Layout
