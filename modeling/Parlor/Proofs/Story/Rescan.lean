import Parlor.Proofs.Story.Parts
import Parlor.Story.Fill
/-!
# Searching a filled story

Filling a story brings texts together that were apart. If each answer holds something that no blank
can reach across, no new blank comes of it: a search of the filled story finds just the blanks
that had no answer (`rescan_fill`).
-/

namespace Parlor.Story
open Text

/-- No brackets or braces, and a character that stands neither within braces nor in front of
them. -/
structure Inert (text : List Char) : Prop where
  bare : ∀ c ∈ text, c ∉ brackets
  stops : ∃ c ∈ text, ¬ BraceChar c ∧ c ≠ ' ' ∧ c ≠ '\t'

instance (text : List Char) : Decidable (Inert text) :=
  decidable_of_iff
    (text.all (fun c => c ∉ brackets) = true ∧
      text.any (fun c => ¬ BraceChar c ∧ c ≠ ' ' ∧ c ≠ '\t') = true) <| by
    simp only [List.all_eq_true, List.any_eq_true, decide_eq_true_eq]
    exact ⟨fun h => ⟨h.1, h.2⟩, fun h => ⟨h.bare, h.stops⟩⟩

theorem Inert.append_ne {text : List Char} (inert : Inert text) {front : List Char}
    (plain : ∀ c ∈ front, BraceChar c ∨ c = ' ' ∨ c = '\t') {stop : Char}
    (bracket : stop ∈ brackets) (after rest : List Char) : text ++ after ≠ front ++ stop :: rest := by
  -- The character that stops blanks would have to be in `front` or be the bracket behind it.
  intro same
  obtain ⟨c, member, notBrace, notSpace, notTab⟩ := inert.stops
  have outside : c ∉ front := by
    intro inside
    have := plain c inside
    simp_all
  rcases List.append_eq_append_iff.1 same with ⟨between, rfl, -⟩ | ⟨between, rfl, behind⟩
  · exact outside (List.mem_append_left _ member)
  · cases between with
    | nil => exact outside (by simpa using member)
    | cons first between =>
      cases behind
      exact inert.bare stop (by simp) bracket

/-- Some blanks of the parts give way to inert text. -/
inductive Replaced : List Piece → List Piece → Prop
  | nil : Replaced [] []
  | literal {c parts others} (tail : Replaced parts others) :
      Replaced (.literal c :: parts) (.literal c :: others)
  | kept {occurrence parts others} (proper : occurrence.Proper) (tail : Replaced parts others) :
      Replaced (.blank occurrence :: parts) (.blank occurrence :: others)
  | answered {occurrence text parts others} (proper : occurrence.Proper) (inert : Inert text)
      (tail : Replaced parts others) :
      Replaced (.blank occurrence :: parts) (text.map .literal ++ others)

theorem flatMap_written_literal (text : List Char) :
    (text.map Piece.literal).flatMap Piece.written = text := by
  induction text with
  | nil => rfl
  | cons c text ih => exact congrArg (List.cons c) ih

variable {parts others : List Piece}

theorem Replaced.body (replaced : Replaced parts others) {body rest : List Char}
    (inside : ∀ c ∈ body, BraceChar c)
    (same : others.flatMap Piece.written = body ++ '\x7d' :: rest) :
    ∃ rest, parts.flatMap Piece.written = body ++ '\x7d' :: rest := by
  induction replaced generalizing body with
  | nil => simp at same
  | literal tail ih =>
    cases body with
    | nil =>
      cases same
      exact ⟨_, rfl⟩
    | cons d body =>
      obtain ⟨rfl, later⟩ := List.cons.inj same
      obtain ⟨rest, found⟩ := ih (fun c member => inside c (List.mem_cons_of_mem _ member)) later
      exact ⟨rest, congrArg (List.cons _) found⟩
  | kept proper tail ih =>
    rename_i occurrence parts others
    -- A blank that stays begins with a bracket or a brace, and the body holds neither.
    obtain ⟨c, text, opened, bracket, notClosing⟩ := proper.written_eq_cons
    rw [List.flatMap_cons, Piece.written, opened, List.cons_append] at same
    cases body with
    | nil => exact absurd (List.cons.inj same).1 notClosing
    | cons d body =>
      obtain ⟨rfl, -⟩ := List.cons.inj same
      exact absurd (inside _ List.mem_cons_self) (not_braceChar bracket)
  | answered proper inert tail ih =>
    rw [List.flatMap_append, flatMap_written_literal] at same
    have plain : ∀ c ∈ body, BraceChar c ∨ c = ' ' ∨ c = '\t' :=
      fun c member => .inl (inside c member)
    exact absurd same (inert.append_ne plain (by decide) _ _)

theorem Inert.not_padded {text : List Char} (inert : Inert text) (after : List Char) :
    ¬ Padded (text ++ after) := by
  intro padded
  obtain ⟨padding, rest, isPadding, ⟨blank, rest, proper, rfl⟩, same⟩ := padded.exists_append
  obtain ⟨inner, opened⟩ := blank.written_eq_cons
  rw [opened] at same
  exact inert.append_ne (fun c member => .inr (isPadding c member)) (by decide) _ _ same

theorem Replaced.braces (replaced : Replaced parts others)
    (h : Braces (others.flatMap Piece.written)) : Braces (parts.flatMap Piece.written) := by
  cases replaced with
  | nil => exact h
  | literal tail =>
    obtain ⟨blank, rest, proper, same⟩ := h
    obtain ⟨body, written, inside⟩ := proper.exists_body
    rw [written, List.cons_append, List.append_assoc] at same
    obtain ⟨rfl, later⟩ := List.cons.inj same
    obtain ⟨rest, found⟩ := tail.body inside later
    refine ⟨blank, rest, proper, ?_⟩
    rw [List.flatMap_cons, found, written]
    simp [Piece.written]
  | kept proper tail =>
    rcases proper.braces_or_hinting with ⟨-, braces⟩ | ⟨inside, opened, -⟩
    · exact braces _
    · rw [List.flatMap_cons, Piece.written, opened] at h
      exact absurd (.braces h) (not_padded_bracket _)
  | answered proper inert tail =>
    rw [List.flatMap_append, flatMap_written_literal] at h
    exact absurd (.braces h) (inert.not_padded _)

theorem Replaced.padded (replaced : Replaced parts others)
    (h : Padded (others.flatMap Piece.written)) : Padded (parts.flatMap Piece.written) := by
  induction replaced with
  | nil => exact h
  | literal tail ih =>
    cases h with
    | braces braces => exact .braces (Replaced.literal tail |>.braces braces)
    | padding blank padded => exact .padding blank (ih padded)
  | kept proper tail ih =>
    rcases proper.braces_or_hinting with ⟨-, braces⟩ | ⟨inside, opened, -⟩
    · exact .braces (braces _)
    · rw [List.flatMap_cons, Piece.written, opened] at h
      exact absurd h (not_padded_bracket _)
  | answered proper inert tail ih =>
    rw [List.flatMap_append, flatMap_written_literal] at h
    exact absurd h (inert.not_padded _)

theorem Replaced.hinting (replaced : Replaced parts others)
    (h : Hinting (others.flatMap Piece.written)) : Hinting (parts.flatMap Piece.written) := by
  induction replaced with
  | nil => exact h
  | literal tail ih =>
    cases h with
    | closed padded => exact .closed (tail.padded padded)
    | inside other hinting => exact .inside other (ih hinting)
  | kept proper tail ih =>
    rcases proper.braces_or_hinting with ⟨closed, -⟩ | ⟨inside, opened, hinting⟩
    · exact (hinting_append_iff closed).2 (ih ((hinting_append_iff closed).1 h))
    · rw [List.flatMap_cons, Piece.written, opened]
      exact .inside (by decide) (hinting _)
  | answered proper inert tail ih =>
    -- No bracket closes the hint within the text, and a hint can stretch over the blank as well.
    rw [List.flatMap_append, flatMap_written_literal] at h
    have closed : ']' ∉ _ := fun member => inert.bare _ member (by decide)
    exact proper.hinting (ih ((hinting_append_iff closed).1 h))

theorem Replaced.stable (replaced : Replaced parts others) (stable : Stable parts) :
    Stable others := by
  induction replaced with
  | nil => exact .nil
  | literal tail ih =>
    cases stable with
    | literal nothing stable =>
      refine .literal ?_ (ih stable)
      rw [readBlank_eq_none_iff_not_braces] at nothing ⊢
      obtain ⟨noBraces, noHint⟩ := nothing
      exact ⟨fun braces => noBraces (Replaced.literal tail |>.braces braces),
        fun hint => noHint ⟨hint.1, tail.hinting hint.2⟩⟩
  | kept proper tail ih =>
    cases stable with
    | blank _ stable => exact .blank proper (ih stable)
  | answered proper inert tail ih =>
    cases stable with
    | blank _ stable => exact (ih stable).append_literals (plain_of_bare inert.bare)

def keysFrom (unnumbered : Nat) : List Blank → List String
  | [] => []
  | blank :: rest => blank.key unnumbered :: keysFrom (blank.advance unnumbered) rest

def keys (template : String) : List String := keysFrom 0 (blanks template)

def filledPieces (answers : Answers) (unnumbered : Nat) : List Piece → List Piece
  | [] => []
  | .literal c :: rest => .literal c :: filledPieces answers unnumbered rest
  | .blank occurrence :: rest =>
    (match answers.get? (occurrence.blank.key unnumbered) with
      | some answer => answer.toList.map .literal
      | none => [.blank occurrence]) ++
    filledPieces answers (occurrence.blank.advance unnumbered) rest

theorem flatMap_written_filledPieces (answers : Answers) (unnumbered : Nat) (parts : List Piece) :
    (filledPieces answers unnumbered parts).flatMap Piece.written =
      fillPieces answers unnumbered parts := by
  induction parts generalizing unnumbered with
  | nil => rfl
  | cons part parts ih =>
    cases part with
    | literal c => exact congrArg (List.cons c) (ih unnumbered)
    | blank occurrence =>
      rw [filledPieces, fillPieces, List.flatMap_append, ih]
      cases answers.get? (occurrence.blank.key unnumbered) with
      | some answer => rw [flatMap_written_literal]
      | none => rw [List.flatMap_singleton, Piece.written]

theorem replaced_filledPieces {answers : Answers} {unnumbered : Nat} {parts : List Piece}
    (stable : Stable parts)
    (inert : ∀ key ∈ keysFrom unnumbered ((occurrences parts).map Occurrence.blank),
      ∀ answer, answers.get? key = some answer → Inert answer.toList) :
    Replaced parts (filledPieces answers unnumbered parts) := by
  induction stable generalizing unnumbered with
  | nil => exact .nil
  | literal nothing tail ih => exact .literal (ih inert)
  | blank proper tail ih =>
    have later := ih fun key member => inert key (List.mem_cons_of_mem _ member)
    rw [filledPieces]
    split
    · rename_i answer found
      exact .answered proper (inert _ List.mem_cons_self answer found) later
    · exact .kept proper later

def unansweredFrom (answers : Answers) (unnumbered : Nat) (found : List Occurrence) :
    List Occurrence :=
  ((found.zip (keysFrom unnumbered (found.map Occurrence.blank))).filter
    fun entry => !answers.contains entry.2).map Prod.fst

def unanswered (answers : Answers) (template : String) : List Occurrence :=
  unansweredFrom answers 0 (occurrences (pieces template.toList))

theorem occurrences_append (parts others : List Piece) :
    occurrences (parts ++ others) = occurrences parts ++ occurrences others :=
  List.filterMap_append

theorem occurrences_literals (text : List Char) : occurrences (text.map .literal) = [] := by
  induction text with
  | nil => rfl
  | cons c text ih => exact ih

theorem occurrences_filledPieces (answers : Answers) (unnumbered : Nat) (parts : List Piece) :
    occurrences (filledPieces answers unnumbered parts) =
      unansweredFrom answers unnumbered (occurrences parts) := by
  induction parts generalizing unnumbered with
  | nil => rfl
  | cons part parts ih =>
    cases part with
    | literal c => exact ih unnumbered
    | blank occurrence =>
      rw [filledPieces, occurrences_append, ih]
      show _ = unansweredFrom answers unnumbered (occurrence :: occurrences parts)
      cases found : answers.get? (occurrence.blank.key unnumbered) with
      | some answer =>
        simp [occurrences_literals, unansweredFrom, keysFrom, SortedMap.contains, found]
      | none =>
        simp [occurrences, unansweredFrom, keysFrom, SortedMap.contains, found]

theorem exists_key_of_mem_zip {occurrence : Occurrence} {key : String} {unnumbered : Nat}
    {found : List Occurrence}
    (h : (occurrence, key) ∈ found.zip (keysFrom unnumbered (found.map Occurrence.blank))) :
    ∃ place, key = occurrence.blank.key place := by
  induction found generalizing unnumbered with
  | nil => simp at h
  | cons first found ih =>
    rcases List.mem_cons.1 h with same | later
    · cases same
      exact ⟨unnumbered, rfl⟩
    · exact ih later

theorem get?_key_of_mem_unansweredFrom {answers : Answers} {unnumbered : Nat}
    {found : List Occurrence} {occurrence : Occurrence}
    (member : occurrence ∈ unansweredFrom answers unnumbered found)
    (answered : ∀ label key, (.unnumbered label, key) ∈
      (found.map Occurrence.blank).zip (keysFrom unnumbered (found.map Occurrence.blank)) →
        answers.contains key = true) (place : Nat) :
    answers.get? (occurrence.blank.key place) = none := by
  obtain ⟨⟨original, key⟩, kept, same⟩ := List.mem_map.1 member
  obtain rfl : original = occurrence := same
  obtain ⟨there, lacking⟩ := List.mem_filter.1 kept
  have missing : answers.get? key = none := by simpa [SortedMap.contains] using lacking
  obtain ⟨first, rfl⟩ := exists_key_of_mem_zip there
  -- Only the keys of unnumbered blanks tell where they stand, and these all have answers.
  cases kind : original.blank with
  | numbered id label =>
    rw [kind] at missing
    exact missing
  | reference id =>
    rw [kind] at missing
    exact missing
  | unnumbered label =>
    have listed := List.mem_map_of_mem (f := Prod.map Occurrence.blank id) there
    rw [← List.zip_map_left, Prod.map_apply, kind] at listed
    have given := answered _ _ listed
    rw [kind] at missing
    simp [SortedMap.contains, missing] at given

theorem fillPieces_of_unanswered {answers : Answers} {parts : List Piece}
    (missing : ∀ occurrence ∈ occurrences parts, ∀ place,
      answers.get? (occurrence.blank.key place) = none) (unnumbered : Nat) :
    fillPieces answers unnumbered parts = parts.flatMap Piece.written := by
  induction parts generalizing unnumbered with
  | nil => rfl
  | cons part parts ih =>
    cases part with
    | literal c => exact congrArg (List.cons c) (ih missing unnumbered)
    | blank occurrence =>
      rw [fillPieces, missing occurrence List.mem_cons_self,
        ih fun other member => missing other (List.mem_cons_of_mem _ member)]
      rfl

/-- A search of a filled story finds the blanks that had no answer, as they were written. If these
are no unnumbered ones, filling again changes nothing. -/
theorem rescan_fill (template : String) (answers : Answers)
    (inert : ∀ key ∈ keys template, ∀ answer, answers.get? key = some answer →
      Inert answer.toList) :
    blanks (fill template answers) = (unanswered answers template).map Occurrence.blank ∧
      (spans (fill template answers)).map Span.written =
        (unanswered answers template).map Occurrence.written ∧
      ((∀ label key, (.unnumbered label, key) ∈ (blanks template).zip (keys template) →
          answers.contains key = true) →
        fill (fill template answers) answers = fill template answers) := by
  have stable := stable_pieces template.toList
  have written : (fill template answers).toList =
      (filledPieces answers 0 (pieces template.toList)).flatMap Piece.written := by
    rw [fill, String.toList_ofList, flatMap_written_filledPieces]
  have found : pieces (fill template answers).toList =
      filledPieces answers 0 (pieces template.toList) := by
    rw [written, pieces_flatMap_written_iff]
    exact (replaced_filledPieces stable inert).stable stable
  refine ⟨?_, ?_, ?_⟩
  · rw [blanks, found, occurrences_filledPieces, unanswered]
  · rw [spans, map_written_spansFrom, found, occurrences_filledPieces, unanswered]
  · intro answered
    have missing : ∀ occurrence ∈ occurrences (filledPieces answers 0 (pieces template.toList)),
        ∀ place, answers.get? (occurrence.blank.key place) = none := by
      intro occurrence member
      rw [occurrences_filledPieces] at member
      exact get?_key_of_mem_unansweredFrom member answered
    rw [fill, found, fillPieces_of_unanswered missing, ← written, String.ofList_toList]

def knottyTemplate : String :=
  "[left [old] \x7b1:noun\x7d\x7bverb\x7d \x7b\x7b2\x7d [x] [y]\x7b3:animal\x7d"

def partialAnswers : Answers := .ofList [("2", "\u00e9"), ("unnumbered_0", "ran!")]

theorem rescan_fill_knotty :
    (∀ key ∈ keys knottyTemplate, ∀ answer, partialAnswers.get? key = some answer →
        Inert answer.toList) ∧
      blanks (fill knottyTemplate partialAnswers) =
        (unanswered partialAnswers knottyTemplate).map Occurrence.blank ∧
      (spans (fill knottyTemplate partialAnswers)).map Span.written =
        (unanswered partialAnswers knottyTemplate).map Occurrence.written ∧
      ((∀ label key, (.unnumbered label, key) ∈
            (blanks knottyTemplate).zip (keys knottyTemplate) →
          partialAnswers.contains key = true) →
        fill (fill knottyTemplate partialAnswers) partialAnswers =
          fill knottyTemplate partialAnswers) := by
  have all : ∀ entry ∈ partialAnswers.entries, Inert entry.2.toList := by decide
  have inert : ∀ key ∈ keys knottyTemplate, ∀ answer, partialAnswers.get? key = some answer →
      Inert answer.toList :=
    fun key _ answer found => all (key, answer) (SortedMap.get?_eq_some_iff.1 found)
  exact ⟨inert, rescan_fill knottyTemplate partialAnswers inert⟩

example : fill knottyTemplate partialAnswers =
    "[left [old] \x7b1:noun\x7dran! \x7b\u00e9 [x] [y]\x7b3:animal\x7d" := by cbv

end Parlor.Story
