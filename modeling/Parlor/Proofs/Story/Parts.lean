import Parlor.Proofs.Story.Grammar

namespace Parlor.Story
open Text

def brackets : List Char := ['[', ']', '\x7b', '\x7d']

def BraceChar (c : Char) : Prop := LabelChar c ∨ isDigit c = true ∨ c = ':'

instance : DecidablePred BraceChar := fun c =>
  decidable_of_iff (isLabelChar c = true ∨ isDigit c = true ∨ c = ':')
    (or_congr_left isLabelChar_iff)

theorem not_braceChar {c : Char} (bracket : c ∈ brackets) : ¬ BraceChar c := by
  simp only [brackets, List.mem_cons, List.not_mem_nil, or_false] at bracket
  rcases bracket with rfl | rfl | rfl | rfl <;> decide

theorem Blank.Proper.exists_body {blank : Blank} (proper : blank.Proper) :
    ∃ body, blank.written = '\x7b' :: (body ++ ['\x7d']) ∧ ∀ c ∈ body, BraceChar c := by
  cases blank with
  | numbered id label =>
    refine ⟨id.toList ++ ':' :: label.toList, by simp [Blank.written], ?_⟩
    intro c member
    rcases List.mem_append.1 member with digit | member
    · exact .inr (.inl (proper.1.2 c digit))
    · rcases List.mem_cons.1 member with rfl | letter
      · exact .inr (.inr rfl)
      · exact .inl (proper.2.2 c letter)
  | unnumbered label => exact ⟨label.toList, rfl, fun c member => .inl (proper.2 c member)⟩
  | reference id => exact ⟨id.toList, rfl, fun c member => .inr (.inl (proper.2 c member))⟩

theorem Blank.Proper.not_mem_written {blank : Blank} (proper : blank.Proper) :
    ']' ∉ blank.written := by
  obtain ⟨body, written, inside⟩ := proper.exists_body
  have outside : ']' ∉ body := fun member => not_braceChar (by decide) (inside _ member)
  simp [written, outside]

theorem Occurrence.Proper.written_eq_cons {occurrence : Occurrence} (proper : occurrence.Proper) :
    ∃ c text, occurrence.written = c :: text ∧ c ∈ brackets ∧ c ≠ '\x7d' := by
  obtain ⟨hint, blank⟩ := occurrence
  obtain ⟨isHint, -⟩ := proper
  cases isHint with
  | absent =>
    obtain ⟨text, same⟩ := blank.written_eq_cons
    exact ⟨_, text, same, by decide, by decide⟩
  | bracketed inner padding => exact ⟨_, _, rfl, by decide, by decide⟩

def Braces (text : List Char) : Prop :=
  ∃ blank rest, Blank.Proper blank ∧ text = blank.written ++ rest

inductive Padded : List Char → Prop
  | braces {text} (tail : Braces text) : Padded text
  | padding {c text} (blank : c = ' ' ∨ c = '\t') (tail : Padded text) : Padded (c :: text)

/-- What may follow an opening bracket for a hint and its blank to begin there. -/
inductive Hinting : List Char → Prop
  | closed {text} (tail : Padded text) : Hinting (']' :: text)
  | inside {c text} (other : c ≠ ']') (tail : Hinting text) : Hinting (c :: text)

theorem padded_append {padding : List Char} (blank : ∀ c ∈ padding, c = ' ' ∨ c = '\t')
    {text : List Char} (h : Padded text) : Padded (padding ++ text) := by
  induction padding with
  | nil => exact h
  | cons c padding ih =>
    exact .padding (blank c List.mem_cons_self)
      (ih fun d member => blank d (List.mem_cons_of_mem _ member))

theorem Padded.exists_append {text : List Char} (h : Padded text) :
    ∃ padding rest, (∀ c ∈ padding, c = ' ' ∨ c = '\t') ∧ Braces rest ∧ text = padding ++ rest := by
  induction h with
  | braces tail => exact ⟨[], _, by simp, tail, rfl⟩
  | padding blank tail ih =>
    obtain ⟨padding, rest, isPadding, braces, rfl⟩ := ih
    refine ⟨_ :: padding, rest, ?_, braces, rfl⟩
    rintro d member
    rcases List.mem_cons.1 member with rfl | member
    · exact blank
    · exact isPadding d member

theorem hinting_append_iff {inner : List Char} (closed : ']' ∉ inner) {text : List Char} :
    Hinting (inner ++ text) ↔ Hinting text := by
  induction inner with
  | nil => rfl
  | cons c inner ih =>
    rw [List.mem_cons, not_or] at closed
    rw [List.cons_append, ← ih closed.2]
    constructor
    · intro h
      cases h with
      | closed tail => exact absurd rfl closed.1
      | inside other tail => exact tail
    · exact .inside (Ne.symm closed.1)

theorem Hinting.exists_append {text : List Char} (h : Hinting text) :
    ∃ inner rest, ']' ∉ inner ∧ Padded rest ∧ text = inner ++ ']' :: rest := by
  induction h with
  | closed tail => exact ⟨[], _, by simp, tail, rfl⟩
  | inside other tail ih =>
    obtain ⟨inner, rest, closed, padded, rfl⟩ := ih
    exact ⟨_ :: inner, rest, by simp [closed, Ne.symm other], padded, rfl⟩

theorem not_padded_bracket (text : List Char) : ¬ Padded ('[' :: text) := by
  intro h
  cases h with
  | braces tail =>
    obtain ⟨blank, rest, -, same⟩ := tail
    obtain ⟨inner, opened⟩ := blank.written_eq_cons
    rw [opened] at same
    cases (List.cons.inj same).1
  | padding blank => rcases blank with clash | clash <;> cases clash

theorem Occurrence.Proper.braces_or_hinting {occurrence : Occurrence}
    (proper : occurrence.Proper) :
    (']' ∉ occurrence.written ∧ ∀ rest, Braces (occurrence.written ++ rest)) ∨
      ∃ inside, occurrence.written = '[' :: inside ∧ ∀ rest, Hinting (inside ++ rest) := by
  obtain ⟨hint, blank⟩ := occurrence
  obtain ⟨isHint, isProper⟩ := proper
  cases isHint with
  | absent => exact .inl ⟨isProper.not_mem_written, fun rest => ⟨blank, rest, isProper, rfl⟩⟩
  | bracketed inner padding closed isPadding =>
    refine .inr ⟨inner ++ ']' :: padding ++ blank.written, rfl, fun rest => ?_⟩
    simp only [List.append_assoc, List.cons_append]
    rw [hinting_append_iff closed]
    exact .closed (padded_append isPadding (.braces ⟨blank, rest, isProper, rfl⟩))

theorem Occurrence.Proper.hinting {occurrence : Occurrence} (proper : occurrence.Proper)
    {text : List Char} (h : Hinting text) : Hinting (occurrence.written ++ text) := by
  rcases proper.braces_or_hinting with ⟨closed, -⟩ | ⟨inside, opened, hinting⟩
  · exact (hinting_append_iff closed).2 h
  · rw [opened]
    exact .inside (by decide) (hinting text)

theorem readBlank_eq_none_iff_not_braces {c : Char} {text : List Char} :
    readBlank (c :: text) = none ↔ ¬ Braces (c :: text) ∧ ¬ (c = '[' ∧ Hinting text) := by
  constructor
  · intro nothing
    constructor
    · rintro ⟨blank, rest, proper, same⟩
      have isProper : (Occurrence.mk [] blank).Proper := ⟨.absent, proper⟩
      have read : readBlank (blank.written ++ rest) = _ := readBlank_append isProper rest
      rw [← same, nothing] at read
      cases read
    · rintro ⟨rfl, hinting⟩
      obtain ⟨inner, behind, closed, padded, rfl⟩ := hinting.exists_append
      obtain ⟨padding, braces, isPadding, ⟨blank, rest, proper, rfl⟩, rfl⟩ := padded.exists_append
      have isProper : (Occurrence.mk ('[' :: (inner ++ ']' :: padding)) blank).Proper :=
        ⟨.bracketed _ _ closed isPadding, proper⟩
      have read := readBlank_append isProper rest
      simp only [Occurrence.written, List.cons_append, List.append_assoc, nothing] at read
      cases read
  · rintro ⟨noBraces, noHint⟩
    cases read : readBlank (c :: text) with
    | none => rfl
    | some result =>
      obtain ⟨occurrence, rest⟩ := result
      obtain ⟨proper, same⟩ := readBlank_eq_some_iff.1 read
      rcases proper.braces_or_hinting with ⟨-, braces⟩ | ⟨inside, opened, hinting⟩
      · exact absurd (same ▸ braces rest) noBraces
      · rw [opened, List.cons_append] at same
        obtain ⟨rfl, rfl⟩ := List.cons.inj same
        exact absurd ⟨rfl, hinting rest⟩ noHint

def Plain (text : List Char) : Prop := ∀ c ∈ text, c ≠ '[' ∧ c ≠ '\x7b'

instance : DecidablePred Plain := fun text => List.decidableBAll _ text

theorem plain_of_bare {text : List Char} (bare : ∀ c ∈ text, c ∉ brackets) : Plain text := by
  intro c member
  have other := bare c member
  constructor
  · rintro rfl
    exact other (by decide)
  · rintro rfl
    exact other (by decide)

theorem readBlank_of_not_opening {c : Char} (plain : c ≠ '[' ∧ c ≠ '\x7b') (text : List Char) :
    readBlank (c :: text) = none := by
  rw [readBlank_eq_none_iff_not_braces]
  constructor
  · rintro ⟨blank, rest, -, same⟩
    obtain ⟨inner, opened⟩ := blank.written_eq_cons
    rw [opened] at same
    exact plain.2 (List.cons.inj same).1
  · rintro ⟨bracket, -⟩
    exact plain.1 bracket

inductive Stable : List Piece → Prop
  | nil : Stable []
  | literal {c rest} (nothing : readBlank (c :: rest.flatMap Piece.written) = none)
      (tail : Stable rest) : Stable (.literal c :: rest)
  | blank {occurrence rest} (proper : occurrence.Proper) (tail : Stable rest) :
      Stable (.blank occurrence :: rest)

theorem stable_pieces (text : List Char) : Stable (pieces text) := by
  fun_induction pieces text with
  | case1 => exact .nil
  | case2 c text occurrence rest found ih => exact .blank (proper_of_readBlank found) ih
  | case3 c text nothing ih =>
    refine .literal ?_ ih
    rw [flatMap_written_pieces]
    exact nothing

theorem Stable.append_literals {text : List Char} (plain : Plain text)
    {parts : List Piece} (h : Stable parts) : Stable (text.map .literal ++ parts) := by
  induction text with
  | nil => exact h
  | cons c text ih =>
    exact .literal (readBlank_of_not_opening (plain c List.mem_cons_self) _)
      (ih fun d member => plain d (List.mem_cons_of_mem _ member))

theorem pieces_literal {c : Char} {text : List Char} (nothing : readBlank (c :: text) = none) :
    pieces (c :: text) = .literal c :: pieces text := by
  rw [pieces]
  split
  · rename_i found
    rw [nothing] at found
    cases found
  · rfl

theorem pieces_blank {occurrence : Occurrence} (proper : occurrence.Proper) (text : List Char) :
    pieces (occurrence.written ++ text) = .blank occurrence :: pieces text := by
  have read := readBlank_append proper text
  cases whole : occurrence.written ++ text with
  | nil =>
    rw [whole] at read
    cases read
  | cons c rest =>
    rw [whole] at read
    rw [pieces]
    split
    · rename_i found
      rw [read] at found
      cases found
      rfl
    · rename_i nothing
      rw [read] at nothing
      cases nothing

theorem Stable.pieces_eq {parts : List Piece} (h : Stable parts) :
    pieces (parts.flatMap Piece.written) = parts := by
  induction h with
  | nil => rw [List.flatMap_nil, pieces]
  | literal nothing tail ih =>
    rw [List.flatMap_cons, Piece.written, List.singleton_append, pieces_literal nothing, ih]
  | blank proper tail ih => rw [List.flatMap_cons, Piece.written, pieces_blank proper, ih]

theorem pieces_flatMap_written_iff {parts : List Piece} :
    pieces (parts.flatMap Piece.written) = parts ↔ Stable parts := by
  constructor
  · intro found
    rw [← found]
    exact stable_pieces _
  · exact Stable.pieces_eq

end Parlor.Story
