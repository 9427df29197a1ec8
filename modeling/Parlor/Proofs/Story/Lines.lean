import Parlor.Proofs.Story.Leftover
/-!
# Templates over several lines

Only a hint can carry a blank over a line break. If a text closes all its brackets, what comes on
the lines behind it is searched and filled by itself, where the unnumbered blanks of the text are
passed over in the answers (`fill_append_line`).
-/

namespace Parlor.Story
open Text

def Closed (text : List Char) : Prop :=
  ∀ before after, text = before ++ '[' :: after → ']' ∈ after

theorem closed_nil : Closed [] := by
  intro before after same
  cases before <;> cases same

theorem closed_cons_iff {c : Char} {text : List Char} :
    Closed (c :: text) ↔ (c = '[' → ']' ∈ text) ∧ Closed text := by
  constructor
  · intro closed
    refine ⟨?_, fun before after same => closed (c :: before) after (congrArg _ same)⟩
    rintro rfl
    exact closed [] text rfl
  · rintro ⟨here, later⟩ before after same
    cases before with
    | nil =>
      obtain ⟨rfl, rfl⟩ := List.cons.inj same
      exact here rfl
    | cons d before => exact later before after (List.cons.inj same).2

instance : DecidablePred Closed
  | [] => .isTrue closed_nil
  | _ :: text =>
    have : Decidable (Closed text) := instDecidablePredListCharClosed text
    decidable_of_iff _ closed_cons_iff.symm

theorem Closed.of_append {text behind : List Char} (closed : Closed (text ++ behind)) :
    Closed behind := by
  intro before after same
  exact closed (text ++ before) after (by rw [same, List.append_assoc])

section LineBreak

variable {text behind : List Char}

theorem Blank.Proper.lineBreak_not_mem {blank : Blank} (proper : blank.Proper) :
    '\n' ∉ blank.written := by
  obtain ⟨body, written, inside⟩ := proper.exists_body
  have outside : '\n' ∉ body := fun member => absurd (inside _ member) (by decide)
  simp [written, outside]

theorem Braces.of_append_line (braces : Braces (text ++ '\n' :: behind)) : Braces text := by
  obtain ⟨blank, rest, proper, same⟩ := braces
  rcases List.append_eq_append_iff.1 same with ⟨between, whole, tail⟩ | ⟨between, whole, -⟩
  · cases between with
    | nil => exact ⟨blank, [], proper, by simpa using whole.symm⟩
    | cons c between =>
      obtain ⟨rfl, -⟩ := List.cons.inj tail
      exact absurd (by simp [whole]) proper.lineBreak_not_mem
  · exact ⟨blank, between, proper, whole⟩

theorem Padded.of_append_line (padded : Padded (text ++ '\n' :: behind)) : Padded text := by
  induction text with
  | nil =>
    cases padded with
    | braces tail =>
      have braces : Braces ([] ++ '\n' :: behind) := tail
      exact .braces braces.of_append_line
    | padding blank => rcases blank with clash | clash <;> cases clash
  | cons c text ih =>
    cases padded with
    | braces tail =>
      have braces : Braces ((c :: text) ++ '\n' :: behind) := tail
      exact .braces braces.of_append_line
    | padding blank tail => exact .padding blank (ih tail)

theorem Hinting.of_append_line (closed : ']' ∈ text)
    (hinting : Hinting (text ++ '\n' :: behind)) : Hinting text := by
  induction text with
  | nil => cases closed
  | cons c text ih =>
    cases hinting with
    | closed tail => exact .closed tail.of_append_line
    | inside other tail =>
      exact .inside other (ih ((List.mem_cons.1 closed).resolve_left (Ne.symm other)) tail)

theorem readBlank_append_line {c : Char} (closed : c = '[' → ']' ∈ text)
    (nothing : readBlank (c :: text) = none) :
    readBlank (c :: (text ++ '\n' :: behind)) = none := by
  rw [readBlank_eq_none_iff_not_braces] at nothing ⊢
  obtain ⟨noBraces, noHint⟩ := nothing
  constructor
  · intro (braces : Braces ((c :: text) ++ '\n' :: behind))
    exact noBraces braces.of_append_line
  · rintro ⟨bracket, hinting⟩
    exact noHint ⟨bracket, hinting.of_append_line (closed bracket)⟩

theorem Stable.append_line {parts others : List Piece} (stable : Stable parts)
    (closed : Closed (parts.flatMap Piece.written)) (later : Stable others) :
    Stable (parts ++ .literal '\n' :: others) := by
  induction stable with
  | nil => exact .literal (readBlank_of_not_opening (by decide) _) later
  | literal nothing tail ih =>
    rw [List.flatMap_cons, Piece.written, List.singleton_append, closed_cons_iff] at closed
    refine .literal ?_ (ih closed.2)
    rw [List.append_eq, List.flatMap_append]
    exact readBlank_append_line closed.1 nothing
  | blank proper tail ih =>
    rw [List.flatMap_cons] at closed
    exact .blank proper (ih closed.of_append)

theorem pieces_append_line (closed : Closed text) (behind : List Char) :
    pieces (text ++ '\n' :: behind) = pieces text ++ .literal '\n' :: pieces behind := by
  have written : text ++ '\n' :: behind =
      (pieces text ++ .literal '\n' :: pieces behind).flatMap Piece.written := by
    rw [List.flatMap_append, List.flatMap_cons, flatMap_written_pieces, flatMap_written_pieces]
    rfl
  have stable : Stable (pieces text ++ .literal '\n' :: pieces behind) :=
    (stable_pieces text).append_line (by rwa [flatMap_written_pieces]) (stable_pieces behind)
  rw [written, stable.pieces_eq]

end LineBreak

def place? (key : String) : Option Nat :=
  let place := Nat.ofDigitChars 10 (key.toList.drop "unnumbered_".length) 0
  if unnumberedKey place = key then some place else none

theorem place?_unnumberedKey (place : Nat) : place? (unnumberedKey place) = some place := by
  have digits : Nat.ofDigitChars 10 ((unnumberedKey place).toList.drop "unnumbered_".length) 0 =
      place := by
    rw [unnumberedKey, String.toList_append, ← String.length_toList, List.drop_left,
      Nat.toString_eq_repr, Nat.toList_repr, Nat.ofDigitChars_ten_toDigits]
  rw [place?, digits, if_pos rfl]

theorem eq_unnumberedKey_of_place? {key : String} {place : Nat} (h : place? key = some place) :
    key = unnumberedKey place := by
  unfold place? at h
  simp only at h
  split at h
  · rename_i same
    cases h
    exact same.symm
  · cases h

theorem IsNumber.place?_eq_none {id : String} (h : IsNumber id) : place? id = none := by
  cases found : place? id with
  | none => rfl
  | some place => exact absurd (eq_unnumberedKey_of_place? found) (h.ne_unnumberedKey place)

def keyAhead (passed : Nat) (key : String) : String :=
  match place? key with
  | none => key
  | some place => unnumberedKey (place + passed)

def keyBehind? (passed : Nat) (key : String) : Option String :=
  match place? key with
  | none => some key
  | some place => if passed ≤ place then some (unnumberedKey (place - passed)) else none

theorem keyBehind?_eq_some_iff {passed : Nat} {key other : String} :
    keyBehind? passed key = some other ↔ key = keyAhead passed other := by
  constructor
  · intro found
    unfold keyBehind? at found
    split at found
    · rename_i free
      cases found
      rw [keyAhead, free]
    · rename_i place taken
      split at found
      · cases found
        rw [keyAhead, place?_unnumberedKey, eq_unnumberedKey_of_place? taken]
        simp only
        congr
        omega
      · cases found
  · rintro rfl
    cases found : place? other with
    | none => simp only [keyAhead, found, keyBehind?]
    | some place =>
      simp only [keyAhead, found, keyBehind?, place?_unnumberedKey]
      rw [if_pos (Nat.le_add_left passed place), Nat.add_sub_cancel,
        ← eq_unnumberedKey_of_place? found]

namespace Answers

def behind (passed : Nat) (answers : Answers) : Answers :=
  SortedMap.ofList (answers.entries.filterMap fun entry =>
    (keyBehind? passed entry.1).map (·, entry.2))

theorem nodup_keysBehind (passed : Nat) (answers : Answers) :
    ((answers.entries.filterMap fun entry =>
      (keyBehind? passed entry.1).map (·, entry.2)).map Prod.fst).Nodup := by
  have names : (answers.entries.filterMap fun entry =>
      (keyBehind? passed entry.1).map (·, entry.2)).map Prod.fst =
        (answers.entries.map Prod.fst).filterMap (keyBehind? passed) := by
    rw [List.map_filterMap, List.filterMap_map]
    congr
    funext entry
    cases found : keyBehind? passed entry.1 <;> simp [found]
  rw [names]
  refine List.Pairwise.filterMap _ ?_ answers.distinct_keys
  rintro name other differ key here _ there rfl
  exact differ ((keyBehind?_eq_some_iff.1 here).trans (keyBehind?_eq_some_iff.1 there).symm)

theorem get?_behind (passed : Nat) (answers : Answers) (key : String) :
    (answers.behind passed).get? key = answers.get? (keyAhead passed key) := by
  apply Option.ext
  intro answer
  rw [SortedMap.get?_eq_some_iff, SortedMap.get?_eq_some_iff, behind,
    (SortedMap.entries_ofList_perm (answers.nodup_keysBehind passed)).mem_iff, List.mem_filterMap]
  constructor
  · rintro ⟨⟨name, held⟩, member, moved⟩
    obtain ⟨other, found, same⟩ := Option.map_eq_some_iff.1 moved
    cases same
    rwa [← keyBehind?_eq_some_iff.1 found]
  · intro member
    exact ⟨_, member, by rw [keyBehind?_eq_some_iff.2 rfl, Option.map_some]⟩

/-- Further answers are the same for numbers, and for unnumbered blanks those from behind the ones
that have been passed. -/
structure Continues (answers : Answers) (passed : Nat) (later : Answers) : Prop where
  numbered : ∀ id, IsNumber id → later.get? id = answers.get? id
  unnumbered : ∀ place,
    later.get? (unnumberedKey place) = answers.get? (unnumberedKey (place + passed))

theorem continues_behind (passed : Nat) (answers : Answers) :
    answers.Continues passed (answers.behind passed) := by
  constructor
  · intro id isNumber
    rw [get?_behind, keyAhead, isNumber.place?_eq_none]
  · intro place
    rw [get?_behind, keyAhead, place?_unnumberedKey]

theorem Continues.get?_key {answers later : Answers} {passed : Nat}
    (continues : answers.Continues passed later) {blank : Blank} (proper : blank.Proper)
    (unnumbered : Nat) :
    later.get? (blank.key unnumbered) = answers.get? (blank.key (unnumbered + passed)) := by
  cases blank with
  | numbered id label => exact continues.numbered id proper.1
  | unnumbered label => exact continues.unnumbered unnumbered
  | reference id => exact continues.numbered id proper

theorem Continues.fillPieces {answers later : Answers} {passed : Nat}
    (continues : answers.Continues passed later) {parts : List Piece} (stable : Stable parts)
    (unnumbered : Nat) :
    Story.fillPieces later unnumbered parts =
      Story.fillPieces answers (unnumbered + passed) parts := by
  induction stable generalizing unnumbered with
  | nil => rfl
  | literal nothing tail ih => exact congrArg (List.cons _) (ih unnumbered)
  | @blank occurrence rest proper tail ih =>
    have further : occurrence.blank.advance unnumbered + passed =
        occurrence.blank.advance (unnumbered + passed) := by
      rw [Blank.advance_eq, Blank.advance_eq]
      omega
    rw [Story.fillPieces, Story.fillPieces, continues.get?_key proper.blank, ih, further]

end Answers

theorem advanceAll_eq (unnumbered : Nat) (parts : List Piece) :
    advanceAll unnumbered parts = unnumbered +
      ((occurrences parts).map Occurrence.blank).countP Blank.isUnnumbered := by
  rw [advanceAll]
  induction (occurrences parts).map Occurrence.blank generalizing unnumbered with
  | nil => rfl
  | cons blank rest ih =>
    have counted : ([blank] ++ rest).countP Blank.isUnnumbered = _ := List.countP_append
    rw [List.singleton_append] at counted
    rw [List.foldl_cons, ih, Blank.advance_eq, counted, Nat.add_assoc]

/-- A template that goes on behind a closed text and a line break has the blanks of the text and
then those of the further lines, and is filled piece by piece. -/
theorem fill_append_line (first second : String) (closed : Closed first.toList) :
    blanks (first ++ "\n" ++ second) = blanks first ++ blanks second ∧
      ∀ answers : Answers,
        (∃ later, answers.Continues ((blanks first).countP Blank.isUnnumbered) later) ∧
          ∀ later, answers.Continues ((blanks first).countP Blank.isUnnumbered) later →
            fill (first ++ "\n" ++ second) answers =
              fill first answers ++ "\n" ++ fill second later := by
  have found : pieces (first ++ "\n" ++ second).toList =
      pieces first.toList ++ .literal '\n' :: pieces second.toList := by
    rw [← pieces_append_line closed, String.toList_append, String.toList_append]
    simp
  refine ⟨?_, fun answers => ⟨⟨_, answers.continues_behind _⟩, ?_⟩⟩
  · rw [blanks, found, occurrences_append, List.map_append]
    rfl
  · intro later continues
    have filled := continues.fillPieces (stable_pieces second.toList) 0
    rw [← String.toList_inj, fill, found, fillPieces_append, fillPieces, advanceAll_eq]
    simp only [fill, String.toList_append, String.toList_ofList, filled, blanks]
    simp

def verses : String × String :=
  ("[a] [b\x7bverb\x7d]\x7bnoun\x7d \x7b", "noun\x7d \x7bverb\x7d [\x7b1\x7d")

theorem fill_append_line_verses :
    Closed verses.1.toList ∧
      blanks (verses.1 ++ "\n" ++ verses.2) = blanks verses.1 ++ blanks verses.2 ∧
      ∀ answers : Answers,
        (∃ later, answers.Continues ((blanks verses.1).countP Blank.isUnnumbered) later) ∧
          ∀ later, answers.Continues ((blanks verses.1).countP Blank.isUnnumbered) later →
            fill (verses.1 ++ "\n" ++ verses.2) answers =
              fill verses.1 answers ++ "\n" ++ fill verses.2 later := by
  have closed : Closed verses.1.toList := by decide
  exact ⟨closed, fill_append_line verses.1 verses.2 closed⟩

end Parlor.Story
