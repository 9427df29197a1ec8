import Parlor.Proofs.Story.Answers
import Parlor.Proofs.Story.Rescan
import Parlor.Proofs.Story.Scan

namespace Parlor.Story

def Answers.inPlace (answers : Answers) (key : String) (written : List Char) : List Char :=
  ((answers.get? key).map String.toList).getD written

theorem getElem?_keysFrom (unnumbered : Nat) (blanks : List Blank) (place : Nat) :
    (keysFrom unnumbered blanks)[place]? =
      blanks[place]?.map
        (Blank.key (unnumbered + (blanks.take place).countP Blank.isUnnumbered)) := by
  induction blanks generalizing unnumbered place with
  | nil => rfl
  | cons blank rest ih =>
    cases place with
    | zero => rfl
    | succ place =>
      have counted : ([blank] ++ rest.take place).countP Blank.isUnnumbered = _ :=
        List.countP_append
      rw [List.singleton_append] at counted
      rw [keysFrom, List.getElem?_cons_succ, List.getElem?_cons_succ, ih, Blank.advance_eq,
        List.take_succ_cons, counted, Nat.add_assoc]

theorem length_keysFrom (unnumbered : Nat) (blanks : List Blank) :
    (keysFrom unnumbered blanks).length = blanks.length := by
  induction blanks generalizing unnumbered with
  | nil => rfl
  | cons blank rest ih => exact congrArg Nat.succ (ih _)

theorem fillPieces_blank (answers : Answers) (unnumbered : Nat) (occurrence : Occurrence)
    (parts : List Piece) :
    fillPieces answers unnumbered (.blank occurrence :: parts) =
      answers.inPlace (occurrence.blank.key unnumbered) occurrence.written ++
        fillPieces answers (occurrence.blank.advance unnumbered) parts := by
  rw [fillPieces, Answers.inPlace]
  cases answers.get? (occurrence.blank.key unnumbered) <;> rfl

theorem fillPieces_eq_substituted (answers : Answers) (unnumbered : Nat) (parts : List Piece) :
    fillPieces answers unnumbered parts =
      substituted parts (List.zipWith answers.inPlace
        (keysFrom unnumbered ((occurrences parts).map Occurrence.blank))
        ((occurrences parts).map Occurrence.written)) := by
  induction parts generalizing unnumbered with
  | nil => rfl
  | cons part parts ih =>
    cases part with
    | literal c => exact congrArg (List.cons c) (ih unnumbered)
    | blank occurrence =>
      rw [fillPieces_blank, ih]
      rfl

theorem zipWith_inPlace_congr {answers other : Answers} {keys : List String}
    (same : ∀ key ∈ keys, other.get? key = answers.get? key) (texts : List (List Char)) :
    List.zipWith other.inPlace keys texts = List.zipWith answers.inPlace keys texts := by
  induction keys generalizing texts with
  | nil => rfl
  | cons key keys ih =>
    cases texts with
    | nil => rfl
    | cons text texts =>
      rw [List.zipWith_cons_cons, List.zipWith_cons_cons, Answers.inPlace, Answers.inPlace,
        same key List.mem_cons_self, ih fun key member => same key (List.mem_cons_of_mem _ member)]

theorem length_spans_eq (template : String) :
    (spans template).length = (keys template).length := by
  rw [spans, length_spansFrom, keys, length_keysFrom, blanks, List.length_map]

theorem toList_fill_eq_spliced (template : String) (answers : Answers) :
    (fill template answers).toList =
      spliced template.toList 0 (spans template)
        (List.zipWith answers.inPlace (keys template) ((spans template).map Span.written)) := by
  have each : (List.zipWith answers.inPlace (keys template)
      ((spans template).map Span.written)).length =
        (occurrences (pieces template.toList)).length := by
    rw [List.length_zipWith, List.length_map, ← length_spans_eq, Nat.min_self, spans,
      length_spansFrom]
  rw [fill, String.toList_ofList, fillPieces_eq_substituted, ← map_written_spansFrom 0]
  exact (spliced_spansFrom [] template.toList each).symm

theorem fill_empty (template : String) : fill template .empty = template := by
  rw [fill, fillPieces_of_unanswered fun _ _ _ => rfl, flatMap_written_pieces, String.ofList_toList]

/-- A filled story is the template with other texts in place of its spans, one for each key; the
key of an unnumbered blank counts the unnumbered ones before it. Without answers it is the template,
and it depends on no answers but those under these keys. -/
theorem fill_eq_spliced (template : String) (answers : Answers) :
    (fill template answers).toList =
        spliced template.toList 0 (spans template)
          (List.zipWith answers.inPlace (keys template) ((spans template).map Span.written)) ∧
      (spans template).length = (keys template).length ∧
      (∀ place, (keys template)[place]? =
        (blanks template)[place]?.map
          (Blank.key (((blanks template).take place).countP Blank.isUnnumbered))) ∧
      (∀ before id label, (Blank.numbered id label).key before = id) ∧
      (∀ before id, (Blank.reference id).key before = id) ∧
      (∀ before label, (Blank.unnumbered label).key before = "unnumbered_" ++ toString before) ∧
      fill template .empty = template ∧
      ∀ other : Answers, (∀ key ∈ keys template, other.get? key = answers.get? key) →
        fill template other = fill template answers := by
  refine ⟨toList_fill_eq_spliced template answers, length_spans_eq template, ?_,
    fun _ _ _ => rfl, fun _ _ => rfl, fun _ _ => rfl, fill_empty template, ?_⟩
  · intro place
    rw [keys, getElem?_keysFrom, Nat.zero_add]
  · intro other same
    rw [← String.toList_inj, toList_fill_eq_spliced, toList_fill_eq_spliced,
      zipWith_inPlace_congr same]

end Parlor.Story
