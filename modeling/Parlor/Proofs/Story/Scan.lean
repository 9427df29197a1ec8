import Parlor.Proofs.Story.Grammar
/-!
# Scanning a template

`IsScan` says what a scan of a text must find, by the grammar alone: places in order where blanks
are written, and none where a blank is written outside of these places. The blanks of a template at
their spans are a scan, and there is no other one.
-/

namespace Parlor.Story
open Text

/-! ## Scans -/

def Span.Cuts (start : Nat) (text : List Char) (span : Span) : Prop :=
  ∃ before after, text = before ++ (span.written ++ after) ∧
    span.start = start + byteLength before ∧ span.stop = span.start + byteLength span.written

def Span.Covers (span : Span) (place : Nat) : Prop := span.start ≤ place ∧ place < span.stop

/-- What is found in a text that begins at the byte `start`: blanks at their places. -/
structure IsScan (start : Nat) (text : List Char) (found : List (Span × Blank)) : Prop where
  cuts : ∀ finding ∈ found, finding.1.Cuts start text
  nonempty : ∀ finding ∈ found, finding.1.start < finding.1.stop
  ordered : found.Pairwise fun earlier later => earlier.1.stop ≤ later.1.start
  spelled : ∀ finding ∈ found, Spells finding.1.written finding.2
  /-- No blank is written at a place that no span covers. -/
  complete : ∀ before rest, text = before ++ rest →
    (∀ finding ∈ found, ¬ finding.1.Covers (start + byteLength before)) →
    ∀ written blank after, Spells written blank → rest ≠ written ++ after

def dropBytes : Nat → List Char → List Char
  | _, [] => []
  | bytes, c :: text =>
    if c.utf8Size ≤ bytes then dropBytes (bytes - c.utf8Size) text else c :: text

def stitched (text : List Char) (start : Nat) : List Span → List Char
  | [] => dropBytes start text
  | span :: rest =>
    takeBytes (span.start - start) (dropBytes start text) ++ span.written ++
      stitched text span.stop rest

def spliced (text : List Char) (start : Nat) : List Span → List (List Char) → List Char
  | span :: spans, replacement :: replacements =>
    takeBytes (span.start - start) (dropBytes start text) ++ replacement ++
      spliced text span.stop spans replacements
  | _, _ => dropBytes start text

/-! ## Places -/

theorem cuts_append_iff {start : Nat} {front rest : List Char} {span : Span} :
    span.Cuts (start + byteLength front) rest ↔
      span.Cuts start (front ++ rest) ∧ start + byteLength front ≤ span.start := by
  constructor
  · rintro ⟨before, after, rfl, begins, ends⟩
    refine ⟨⟨front ++ before, after, by simp, ?_, ends⟩, by omega⟩
    rw [begins, byteLength_append, Nat.add_assoc]
  · rintro ⟨⟨before, after, same, begins, ends⟩, le⟩
    obtain ⟨between, rfl, rfl⟩ := append_of_byteLength_le same (by omega)
    rw [byteLength_append] at begins
    exact ⟨between, after, rfl, by omega, ends⟩

theorem Span.Cuts.le {start : Nat} {text : List Char} {span : Span} (h : span.Cuts start text) :
    start ≤ span.start := by
  obtain ⟨before, after, -, begins, -⟩ := h
  omega

theorem Span.Cuts.eq_append {start : Nat} {text : List Char} {span : Span}
    (h : span.Cuts start text) (here : span.start ≤ start) :
    span.start = start ∧ span.stop = start + byteLength span.written ∧
      ∃ after, text = span.written ++ after := by
  obtain ⟨before, after, same, begins, ends⟩ := h
  obtain rfl := byteLength_eq_zero (show byteLength before = 0 by omega)
  exact ⟨by omega, by omega, after, same⟩

/-! ## Scans step by step -/

theorem isScan_nil_iff {start : Nat} {found : List (Span × Blank)} :
    IsScan start [] found ↔ found = [] := by
  constructor
  · intro scan
    cases found with
    | nil => rfl
    | cons finding later =>
      obtain ⟨before, after, same, -, -⟩ := scan.cuts finding (by simp)
      have := (scan.spelled finding (by simp)).ne_nil
      simp_all
  · rintro rfl
    refine ⟨by simp, by simp, .nil, by simp, ?_⟩
    intro before rest same _ written blank after spells nothing
    have := spells.ne_nil
    simp_all

theorem cuts_cons_iff {start : Nat} {c : Char} {text : List Char} {span : Span} :
    span.Cuts (start + c.utf8Size) text ↔
      span.Cuts start (c :: text) ∧ start + c.utf8Size ≤ span.start := by
  have width : byteLength [c] = c.utf8Size := by simp
  have behind : span.Cuts (start + byteLength [c]) text ↔
      span.Cuts start ([c] ++ text) ∧ start + byteLength [c] ≤ span.start := cuts_append_iff
  rwa [width] at behind

theorem IsScan.of_cons {start : Nat} {c : Char} {text : List Char} {found : List (Span × Blank)}
    (nothing : readBlank (c :: text) = none) (scan : IsScan start (c :: text) found) :
    IsScan (start + c.utf8Size) text found := by
  refine ⟨?_, scan.nonempty, scan.ordered, scan.spelled, ?_⟩
  · intro finding member
    obtain ⟨before, after, same, begins, ends⟩ := scan.cuts finding member
    cases before with
    | nil =>
      have nowhere := readBlank_eq_none_iff.1 nothing
      exact absurd same (nowhere _ _ after (scan.spelled finding member))
    | cons d before =>
      cases same
      rw [byteLength_cons] at begins
      exact ⟨before, after, rfl, by omega, ends⟩
  · intro before rest same apart
    apply scan.complete (c :: before) rest (by simp [same])
    intro finding member
    rw [byteLength_cons, ← Nat.add_assoc]
    exact apart finding member

theorem IsScan.cons_literal {start : Nat} {c : Char} {text : List Char}
    {found : List (Span × Blank)} (nothing : readBlank (c :: text) = none)
    (scan : IsScan (start + c.utf8Size) text found) : IsScan start (c :: text) found := by
  refine ⟨?_, scan.nonempty, scan.ordered, scan.spelled, ?_⟩
  · intro finding member
    exact (cuts_cons_iff.1 (scan.cuts finding member)).1
  · intro before rest same apart
    cases before with
    | nil =>
      rw [List.nil_append] at same
      exact same ▸ readBlank_eq_none_iff.1 nothing
    | cons d before =>
      cases same
      apply scan.complete before rest rfl
      intro finding member
      have away := apart finding member
      rwa [byteLength_cons, ← Nat.add_assoc] at away

theorem isScan_literal_iff {start : Nat} {c : Char} {text : List Char}
    {found : List (Span × Blank)} (nothing : readBlank (c :: text) = none) :
    IsScan start (c :: text) found ↔ IsScan (start + c.utf8Size) text found :=
  ⟨.of_cons nothing, .cons_literal nothing⟩

theorem IsScan.head_eq {start : Nat} {text rest : List Char} {found : List (Span × Blank)}
    {occurrence : Occurrence} (scan : IsScan start text found)
    (read : readBlank text = some (occurrence, rest)) :
    ∃ later, found = (⟨start, start + byteLength occurrence.written, occurrence.written⟩,
      occurrence.blank) :: later := by
  obtain ⟨finding, member, covers⟩ : ∃ finding ∈ found, finding.1.Covers start := by
    apply Classical.byContradiction
    intro none
    have apart : ∀ finding ∈ found, ¬ finding.1.Covers (start + byteLength []) := by
      intro finding member covers
      exact none ⟨finding, member, by simpa using covers⟩
    have nothing := readBlank_eq_none_iff.2 (scan.complete [] text rfl apart)
    rw [nothing] at read
    cases read
  cases found with
  | nil => cases member
  | cons head later =>
    refine ⟨later, ?_⟩
    obtain ⟨⟨first, last, written⟩, blank⟩ := head
    have cuts := scan.cuts _ List.mem_cons_self
    have spells := scan.spelled _ List.mem_cons_self
    -- Whichever finding covers the start, the first one does not begin behind it.
    have here : first ≤ start := by
      rcases List.mem_cons.1 member with rfl | member
      · exact covers.1
      · have ends := (List.pairwise_cons.1 scan.ordered).1 finding member
        have begins := covers.1
        have nonempty := scan.nonempty _ List.mem_cons_self
        simp only at ends nonempty
        omega
    obtain ⟨begins, ends, after, same⟩ := cuts.eq_append here
    obtain ⟨sameText, sameBlank, -⟩ := spells_unique read spells same
    simp_all

theorem IsScan.tail {start : Nat} {front rest : List Char} {blank : Blank}
    {later : List (Span × Blank)}
    (scan : IsScan start (front ++ rest)
      ((⟨start, start + byteLength front, front⟩, blank) :: later)) :
    IsScan (start + byteLength front) rest later := by
  obtain ⟨behind, ordered⟩ := List.pairwise_cons.1 scan.ordered
  refine ⟨?_, ?_, ordered, ?_, ?_⟩
  · intro finding member
    apply cuts_append_iff.2
    exact ⟨scan.cuts finding (List.mem_cons_of_mem _ member), behind finding member⟩
  · intro finding member
    exact scan.nonempty finding (List.mem_cons_of_mem _ member)
  · intro finding member
    exact scan.spelled finding (List.mem_cons_of_mem _ member)
  · intro before after same apart
    apply scan.complete (front ++ before) after (by simp [same])
    intro finding member
    rw [byteLength_append, ← Nat.add_assoc]
    rcases List.mem_cons.1 member with rfl | member
    · rintro ⟨-, inside⟩
      simp only at inside
      omega
    · exact apart finding member

theorem IsScan.cons {start : Nat} {front rest : List Char} {blank : Blank}
    {later : List (Span × Blank)} (spells : Spells front blank)
    (scan : IsScan (start + byteLength front) rest later) :
    IsScan start (front ++ rest)
      ((⟨start, start + byteLength front, front⟩, blank) :: later) := by
  refine ⟨?_, ?_, List.pairwise_cons.2 ⟨?_, scan.ordered⟩, ?_, ?_⟩
  · intro finding member
    rcases List.mem_cons.1 member with rfl | member
    · exact ⟨[], rest, rfl, rfl, rfl⟩
    · exact (cuts_append_iff.1 (scan.cuts finding member)).1
  · intro finding member
    rcases List.mem_cons.1 member with rfl | member
    · exact Nat.lt_add_of_pos_right (byteLength_pos spells.ne_nil)
    · exact scan.nonempty finding member
  · intro finding member
    exact (scan.cuts finding member).le
  · intro finding member
    rcases List.mem_cons.1 member with rfl | member
    · exact spells
    · exact scan.spelled finding member
  · intro before after same apart
    -- A place that the first span does not cover lies behind it.
    have behind : byteLength front ≤ byteLength before := by
      have away := apart _ List.mem_cons_self
      simp only [Span.Covers] at away
      omega
    obtain ⟨between, rfl, rfl⟩ := append_of_byteLength_le same behind
    apply scan.complete between after rfl
    intro finding member
    have away := apart finding (List.mem_cons_of_mem _ member)
    rwa [byteLength_append, ← Nat.add_assoc] at away

theorem isScan_blank_iff {start : Nat} {text rest : List Char} {found : List (Span × Blank)}
    {occurrence : Occurrence} (read : readBlank text = some (occurrence, rest)) :
    IsScan start text found ↔
      ∃ later, found = (⟨start, start + byteLength occurrence.written, occurrence.written⟩,
          occurrence.blank) :: later ∧
        IsScan (start + byteLength occurrence.written) rest later := by
  obtain ⟨proper, rfl⟩ := readBlank_eq_some_iff.1 read
  have spells : Spells occurrence.written occurrence.blank :=
    spells_iff.2 ⟨occurrence, proper, rfl, rfl⟩
  constructor
  · intro scan
    obtain ⟨later, rfl⟩ := scan.head_eq read
    exact ⟨later, rfl, scan.tail⟩
  · rintro ⟨later, rfl, scan⟩
    exact scan.cons spells

/-! ## The scan of a text -/

def findingsFrom (start : Nat) (parts : List Piece) : List (Span × Blank) :=
  (spansFrom start parts).zip ((occurrences parts).map Occurrence.blank)

theorem findingsFrom_literal (start : Nat) (c : Char) (parts : List Piece) :
    findingsFrom start (.literal c :: parts) = findingsFrom (start + c.utf8Size) parts := rfl

theorem findingsFrom_blank (start : Nat) (occurrence : Occurrence) (parts : List Piece) :
    findingsFrom start (.blank occurrence :: parts) =
      (⟨start, start + byteLength occurrence.written, occurrence.written⟩, occurrence.blank) ::
        findingsFrom (start + byteLength occurrence.written) parts := rfl

theorem isScan_iff (start : Nat) (text : List Char) (found : List (Span × Blank)) :
    IsScan start text found ↔ found = findingsFrom start (pieces text) := by
  fun_induction pieces text generalizing start found with
  | case1 => exact isScan_nil_iff
  | case2 c text occurrence rest read ih =>
    rw [isScan_blank_iff read, findingsFrom_blank]
    constructor
    · rintro ⟨later, rfl, scan⟩
      rw [(ih _ _).1 scan]
    · rintro rfl
      exact ⟨_, rfl, (ih _ _).2 rfl⟩
  | case3 c text nothing ih =>
    rw [isScan_literal_iff nothing, findingsFrom_literal]
    exact ih _ _

/-! ## Splicing -/

def substituted : List Piece → List (List Char) → List Char
  | [], _ => []
  | .literal c :: parts, replacements => c :: substituted parts replacements
  | .blank _ :: parts, replacement :: replacements =>
    replacement ++ substituted parts replacements
  | .blank occurrence :: parts, [] => occurrence.written ++ substituted parts []

theorem dropBytes_byteLength (before text : List Char) :
    dropBytes (byteLength before) (before ++ text) = text := by
  induction before with
  | nil =>
    cases text with
    | nil => rfl
    | cons c text =>
      have positive : 0 < c.utf8Size := Char.utf8Size_pos c
      simp [dropBytes, Nat.not_le.2 positive]
  | cons c before ih => simp [dropBytes, ih]

theorem start_le_of_mem_spansFrom {start : Nat} {parts : List Piece} {span : Span}
    (h : span ∈ spansFrom start parts) : start ≤ span.start := by
  induction parts generalizing start with
  | nil => cases h
  | cons part parts ih =>
    cases part with
    | literal c =>
      have := ih h
      omega
    | blank occurrence =>
      rcases List.mem_cons.1 h with rfl | h
      · exact Nat.le_refl _
      · have := ih h
        omega

theorem spliced_nil (text : List Char) (start : Nat) (replacements : List (List Char)) :
    spliced text start [] replacements = dropBytes start text := rfl

theorem spliced_literal (before text : List Char) (c : Char) {spans : List Span}
    {replacements : List (List Char)} (each : replacements.length = spans.length)
    (behind : ∀ span ∈ spans, byteLength before + c.utf8Size ≤ span.start) :
    spliced (before ++ c :: text) (byteLength before) spans replacements =
      c :: spliced (before ++ c :: text) (byteLength before + c.utf8Size) spans replacements := by
  have fromHere : dropBytes (byteLength before) (before ++ c :: text) = c :: text :=
    dropBytes_byteLength before (c :: text)
  have fromNext : dropBytes (byteLength before + c.utf8Size) (before ++ c :: text) = text := by
    have := dropBytes_byteLength (before ++ [c]) text
    simpa using this
  cases spans with
  | nil => rw [spliced_nil, spliced_nil, fromHere, fromNext]
  | cons span spans =>
    cases replacements with
    | nil => simp at each
    | cons replacement replacements =>
      have := behind span List.mem_cons_self
      rw [spliced, spliced, fromHere, fromNext, takeBytes, if_pos (by omega), Nat.sub_sub]
      rfl

theorem spliced_spansFrom (before text : List Char) {replacements : List (List Char)}
    (each : replacements.length = (occurrences (pieces text)).length) :
    spliced (before ++ text) (byteLength before) (spansFrom (byteLength before) (pieces text))
        replacements =
      substituted (pieces text) replacements := by
  fun_induction pieces text generalizing before replacements with
  | case1 => exact dropBytes_byteLength before []
  | case2 c text occurrence rest read ih =>
    cases replacements with
    | nil => cases each
    | cons replacement replacements =>
      have later := ih (before ++ occurrence.written) (Nat.succ.inj each)
      rw [byteLength_append, List.append_assoc, ← readBlank_eq read] at later
      have nothing : takeBytes 0 (dropBytes (byteLength before) (before ++ c :: text)) = [] := by
        rw [dropBytes_byteLength]
        exact takeBytes_byteLength [] _
      rw [spansFrom, spliced, later, Nat.sub_self, nothing, List.nil_append, substituted]
  | case3 c text nothing ih =>
    have later := ih (before ++ [c]) each
    simp only [byteLength_append, byteLength_cons, byteLength_nil, Nat.add_zero,
      List.append_assoc, List.cons_append, List.nil_append] at later
    have places := each.trans
      (length_spansFrom (byteLength before + c.utf8Size) (pieces text)).symm
    rw [spansFrom, spliced_literal _ _ _ places fun _ => start_le_of_mem_spansFrom, later,
      substituted]

theorem substituted_written (parts : List Piece) :
    substituted parts ((occurrences parts).map Occurrence.written) =
      parts.flatMap Piece.written := by
  induction parts with
  | nil => rfl
  | cons part parts ih =>
    cases part with
    | literal c => exact congrArg (List.cons c) ih
    | blank occurrence => exact congrArg (occurrence.written ++ ·) ih

theorem stitched_eq_spliced (text : List Char) (start : Nat) (spans : List Span) :
    stitched text start spans = spliced text start spans (spans.map Span.written) := by
  induction spans generalizing start with
  | nil => rfl
  | cons span spans ih => rw [stitched, ih, List.map_cons, spliced]

theorem stitched_spansFrom (text : List Char) :
    stitched text 0 (spansFrom 0 (pieces text)) = text := by
  have each : ((occurrences (pieces text)).map Occurrence.written).length =
      (occurrences (pieces text)).length := List.length_map _
  have whole := spliced_spansFrom [] text each
  rwa [substituted_written, flatMap_written_pieces, ← map_written_spansFrom,
    ← stitched_eq_spliced] at whole

/-- The blanks of a template at their spans are the one scan of it that there is, and what lies
between the spans together with their texts is the template. -/
theorem scan_unique (template : String) :
    (spans template).length = (blanks template).length ∧
      (∀ found, IsScan 0 template.toList found ↔
        found = (spans template).zip (blanks template)) ∧
      stitched template.toList 0 (spans template) = template.toList := by
  refine ⟨?_, fun found => isScan_iff 0 template.toList found, ?_⟩
  · rw [spans, blanks, List.length_map, length_spansFrom]
  · exact stitched_spansFrom template.toList

end Parlor.Story
