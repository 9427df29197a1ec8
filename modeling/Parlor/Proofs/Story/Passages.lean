import Parlor.Proofs.Story.Splicing

namespace Parlor.Story
open Text

structure Passage where
  literal : String
  occurrence : Occurrence

namespace Passage

structure Proper (passage : Passage) : Prop where
  literal : Plain passage.literal.toList
  occurrence : passage.occurrence.Proper

def blank (passage : Passage) : Blank := passage.occurrence.blank

def written (passage : Passage) : List Char :=
  passage.literal.toList ++ passage.occurrence.written

def filled (answers : Answers) (key : String) (passage : Passage) : List Char :=
  passage.literal.toList ++ answers.inPlace key passage.occurrence.written

end Passage

def written (passages : List Passage) (ending : String) : String :=
  String.ofList (passages.flatMap Passage.written ++ ending.toList)

def writtenSpans (start : Nat) : List Passage → List Span
  | [] => []
  | passage :: rest =>
    let first := start + byteLength passage.literal.toList
    let stop := first + byteLength passage.occurrence.written
    ⟨first, stop, passage.occurrence.written⟩ :: writtenSpans stop rest

def writtenParts (ending : String) : List Passage → List Piece
  | [] => ending.toList.map .literal
  | passage :: rest =>
    passage.literal.toList.map .literal ++ .blank passage.occurrence :: writtenParts ending rest

variable {passages : List Passage} {ending : String}

theorem stable_writtenParts (proper : ∀ passage ∈ passages, passage.Proper)
    (plain : Plain ending.toList) : Stable (writtenParts ending passages) := by
  induction passages with
  | nil =>
    have stable := Stable.nil.append_literals plain
    rwa [List.append_nil] at stable
  | cons passage passages ih =>
    have here := proper passage List.mem_cons_self
    have later := ih fun other member => proper other (List.mem_cons_of_mem _ member)
    exact (Stable.blank here.occurrence later).append_literals here.literal

theorem flatMap_written_writtenParts (passages : List Passage) (ending : String) :
    (writtenParts ending passages).flatMap Piece.written = (written passages ending).toList := by
  rw [written, String.toList_ofList]
  induction passages with
  | nil => exact flatMap_written_literal _
  | cons passage passages ih =>
    rw [writtenParts, List.flatMap_append, flatMap_written_literal, List.flatMap_cons, ih,
      List.flatMap_cons, Passage.written, List.append_assoc, List.append_assoc]
    rfl

theorem pieces_written (proper : ∀ passage ∈ passages, passage.Proper)
    (plain : Plain ending.toList) :
    pieces (written passages ending).toList = writtenParts ending passages := by
  rw [← flatMap_written_writtenParts]
  exact (stable_writtenParts proper plain).pieces_eq

theorem occurrences_writtenParts (passages : List Passage) (ending : String) :
    occurrences (writtenParts ending passages) = passages.map Passage.occurrence := by
  induction passages with
  | nil => exact occurrences_literals _
  | cons passage passages ih =>
    rw [writtenParts, occurrences_append, occurrences_literals, List.map_cons, ← ih]
    rfl

theorem spansFrom_literals (start : Nat) (text : List Char) (parts : List Piece) :
    spansFrom start (text.map .literal ++ parts) = spansFrom (start + byteLength text) parts := by
  induction text generalizing start with
  | nil => rfl
  | cons c text ih =>
    rw [List.map_cons, List.cons_append, spansFrom, ih, byteLength_cons, Nat.add_assoc]

theorem spansFrom_writtenParts (start : Nat) (passages : List Passage) (ending : String) :
    spansFrom start (writtenParts ending passages) = writtenSpans start passages := by
  induction passages generalizing start with
  | nil =>
    have nothing := spansFrom_literals start ending.toList []
    rwa [List.append_nil] at nothing
  | cons passage passages ih =>
    rw [writtenParts, spansFrom_literals, spansFrom, ih]
    rfl

theorem fillPieces_literals (answers : Answers) (unnumbered : Nat) (text : List Char)
    (parts : List Piece) :
    fillPieces answers unnumbered (text.map .literal ++ parts) =
      text ++ fillPieces answers unnumbered parts := by
  induction text with
  | nil => rfl
  | cons c text ih => exact congrArg (List.cons c) ih

theorem fillPieces_writtenParts (answers : Answers) (unnumbered : Nat) (passages : List Passage)
    (ending : String) :
    fillPieces answers unnumbered (writtenParts ending passages) =
      (List.zipWith (Passage.filled answers)
        (keysFrom unnumbered (passages.map Passage.blank)) passages).flatten ++
      ending.toList := by
  induction passages generalizing unnumbered with
  | nil =>
    have whole := fillPieces_literals answers unnumbered ending.toList []
    rw [List.append_nil, fillPieces, List.append_nil] at whole
    exact whole
  | cons passage passages ih =>
    rw [writtenParts, fillPieces_literals, fillPieces_blank, ih]
    simp [keysFrom, Passage.filled, Passage.blank]

/-- What is found in a written template are the blanks that were written, at the places where they
were written, and only these give way when it is filled. -/
theorem scan_written (passages : List Passage) (ending : String)
    (proper : ∀ passage ∈ passages, passage.Proper) (plain : Plain ending.toList) :
    blanks (written passages ending) = passages.map Passage.blank ∧
      spans (written passages ending) = writtenSpans 0 passages ∧
      ∀ answers, (fill (written passages ending) answers).toList =
        (List.zipWith (Passage.filled answers)
          (keysFrom 0 (passages.map Passage.blank)) passages).flatten ++ ending.toList := by
  have found := pieces_written proper plain
  refine ⟨?_, ?_, ?_⟩
  · rw [blanks, found, occurrences_writtenParts, List.map_map]
    rfl
  · rw [spans, found, spansFrom_writtenParts]
  · intro answers
    rw [fill, String.toList_ofList, found, fillPieces_writtenParts]

def trickyPassages : List Passage :=
  [⟨"", "[[\x7b1:noun\x7d [\n] \t".toList, .unnumbered "verb"⟩,
    ⟨" an end]\x7d] ", [], .numbered "\u0663" "animal_name"⟩,
    ⟨"", "[]".toList, .reference "\u0663"⟩,
    ⟨"]", [], .reference "12"⟩]

theorem scan_written_tricky :
    ((∀ passage ∈ trickyPassages, passage.Proper) ∧ Plain "\x7d".toList) ∧
      blanks (written trickyPassages "\x7d") = trickyPassages.map Passage.blank ∧
      spans (written trickyPassages "\x7d") = writtenSpans 0 trickyPassages ∧
      ∀ answers, (fill (written trickyPassages "\x7d") answers).toList =
        (List.zipWith (Passage.filled answers)
          (keysFrom 0 (trickyPassages.map Passage.blank)) trickyPassages).flatten ++
            "\x7d".toList := by
  have hints : ∀ passage ∈ trickyPassages, IsHint passage.occurrence.hint := by
    intro passage member
    simp only [trickyPassages, List.mem_cons, List.not_mem_nil, or_false] at member
    rcases member with rfl | rfl | rfl | rfl
    · exact .bracketed "[\x7b1:noun\x7d [\n".toList " \t".toList (by decide) (by simp)
    · exact .absent
    · exact .bracketed [] [] (by decide) (by simp)
    · exact .absent
  have texts : ∀ passage ∈ trickyPassages,
      Plain passage.literal.toList ∧ passage.blank.Proper := by decide
  have proper : ∀ passage ∈ trickyPassages, passage.Proper := fun passage member =>
    ⟨(texts passage member).1, hints passage member, (texts passage member).2⟩
  have plain : Plain "\x7d".toList := by decide
  exact ⟨⟨proper, plain⟩, scan_written trickyPassages "\x7d" proper plain⟩

example : fill (written trickyPassages "\x7d") (.ofList [("\u0663", "owl")]) =
    "[[\x7b1:noun\x7d [\n] \t\x7bverb\x7d an end]\x7d] owlowl]\x7b12\x7d\x7d" := by cbv

end Parlor.Story
