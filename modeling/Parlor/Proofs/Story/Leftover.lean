import Parlor.Proofs.Story.Filling
import Parlor.Proofs.Story.Rescan
/-!
# Blanks that filling leaves

A story all of whose blanks have answers may still have blanks once it is filled: an opening and a
closing brace of its own can close round what has been put between them. `Framed` says when they
do, and that is the only way in which a blank is left (`leftover_iff`).
-/

namespace Parlor.Story

/-! ## Braces round answers -/

def IsBody (text : List Char) : Prop :=
  ∃ blank : Blank, blank.Proper ∧ blank.written = '\x7b' :: (text ++ ['\x7d'])

def advanceAll (unnumbered : Nat) (parts : List Piece) : Nat :=
  ((occurrences parts).map Occurrence.blank).foldl Blank.advance unnumbered

/-- Two braces of the template have blanks between them, and what stands in between when these are
filled is what may stand between the braces of a blank. -/
def Framed (answers : Answers) (template : String) : Prop :=
  ∃ front inner back,
    pieces template.toList = front ++ .literal '\x7b' :: (inner ++ .literal '\x7d' :: back) ∧
      occurrences inner ≠ [] ∧ IsBody (fillPieces answers (advanceAll 0 front) inner)

theorem IsBody.braces {text : List Char} (body : IsBody text) (rest : List Char) :
    Braces ('\x7b' :: (text ++ '\x7d' :: rest)) := by
  obtain ⟨blank, proper, written⟩ := body
  exact ⟨blank, rest, proper, by simp [written]⟩

theorem Braces.exists_body {text : List Char} (braces : Braces text) :
    ∃ body rest, IsBody body ∧ text = '\x7b' :: (body ++ '\x7d' :: rest) := by
  obtain ⟨blank, rest, proper, rfl⟩ := braces
  obtain ⟨body, written, -⟩ := proper.exists_body
  exact ⟨body, rest, ⟨blank, proper, written⟩, by simp [written]⟩

theorem not_braces_nil : ¬ Braces [] := by
  rintro ⟨blank, rest, -, same⟩
  obtain ⟨text, opened⟩ := blank.written_eq_cons
  rw [opened] at same
  cases same

theorem occurrences_pieces_eq_nil_iff {text : List Char} :
    occurrences (pieces text) = [] ↔ ∀ before rest, text = before ++ rest → ¬ Braces rest := by
  fun_induction pieces text with
  | case1 =>
    refine ⟨fun _ before rest same => ?_, fun _ => rfl⟩
    obtain ⟨-, rfl⟩ := List.append_eq_nil_iff.1 same.symm
    exact not_braces_nil
  | case2 c text occurrence rest found ih =>
    obtain ⟨proper, same⟩ := readBlank_eq_some_iff.1 found
    have begins : Braces (occurrence.blank.written ++ rest) := ⟨_, rest, proper.blank, rfl⟩
    rw [Occurrence.written, List.append_assoc] at same
    constructor
    · intro none
      cases none
    · intro nowhere
      exact absurd begins (nowhere _ _ same)
  | case3 c text nothing ih =>
    have here : ¬ Braces (c :: text) := (readBlank_eq_none_iff_not_braces.1 nothing).1
    refine ih.trans ⟨?_, ?_⟩
    · intro nowhere before rest same
      cases before with
      | nil =>
        rw [List.nil_append] at same
        exact same ▸ here
      | cons d before => exact nowhere before rest (List.cons.inj same).2
    · intro nowhere before rest same
      exact nowhere (c :: before) rest (congrArg (List.cons c) same)

/-! ## Brackets of a filled story -/

variable {answers : Answers}

inductive Answered (answers : Answers) : Nat → List Piece → Prop
  | nil {unnumbered} : Answered answers unnumbered []
  | literal {unnumbered c rest} (tail : Answered answers unnumbered rest) :
      Answered answers unnumbered (.literal c :: rest)
  | blank {unnumbered occurrence answer rest}
      (found : answers.get? (occurrence.blank.key unnumbered) = some answer)
      (bare : ∀ c ∈ answer.toList, c ∉ brackets)
      (tail : Answered answers (occurrence.blank.advance unnumbered) rest) :
      Answered answers unnumbered (.blank occurrence :: rest)

theorem advanceAll_blank (unnumbered : Nat) (occurrence : Occurrence) (parts : List Piece) :
    advanceAll unnumbered (.blank occurrence :: parts) =
      advanceAll (occurrence.blank.advance unnumbered) parts := rfl

theorem fillPieces_append (unnumbered : Nat) (parts others : List Piece) :
    fillPieces answers unnumbered (parts ++ others) =
      fillPieces answers unnumbered parts ++
        fillPieces answers (advanceAll unnumbered parts) others := by
  induction parts generalizing unnumbered with
  | nil => rfl
  | cons part parts ih =>
    cases part with
    | literal c => exact congrArg (List.cons c) (ih unnumbered)
    | blank occurrence =>
      rw [List.cons_append, fillPieces, fillPieces, ih, advanceAll_blank, List.append_assoc]

/-- A bracket of a filled story is one of the template's own. -/
theorem Answered.exists_literal {unnumbered : Nat} {parts : List Piece}
    (answered : Answered answers unnumbered parts) {bracket : Char} (isBracket : bracket ∈ brackets)
    {before after : List Char}
    (same : fillPieces answers unnumbered parts = before ++ bracket :: after) :
    ∃ front back, parts = front ++ .literal bracket :: back ∧
      fillPieces answers unnumbered front = before ∧
      fillPieces answers (advanceAll unnumbered front) back = after ∧
      Answered answers (advanceAll unnumbered front) back := by
  induction answered generalizing before with
  | nil => simp [fillPieces] at same
  | @literal unnumbered c rest tail ih =>
    rw [fillPieces] at same
    cases before with
    | nil =>
      obtain ⟨rfl, rfl⟩ := List.cons.inj same
      exact ⟨[], rest, rfl, rfl, rfl, tail⟩
    | cons d before =>
      obtain ⟨rfl, further⟩ := List.cons.inj same
      obtain ⟨front, back, rfl, filled, behind, later⟩ := ih further
      exact ⟨.literal c :: front, back, rfl, congrArg (List.cons c) filled, behind, later⟩
  | @blank unnumbered occurrence answer rest found bare tail ih =>
    rw [fillPieces, found] at same
    obtain ⟨between, rfl, further⟩ : ∃ between, before = answer.toList ++ between ∧
        fillPieces answers (occurrence.blank.advance unnumbered) rest =
          between ++ bracket :: after := by
      rcases List.append_eq_append_iff.1 same with ⟨between, inFront, behind⟩ |
        ⟨between, inFront, behind⟩
      · exact ⟨between, inFront, behind⟩
      · -- The bracket is not within the answer.
        cases between with
        | nil => exact ⟨[], by simpa using inFront.symm, by simpa using behind.symm⟩
        | cons c between =>
          obtain ⟨rfl, -⟩ := List.cons.inj behind
          exact absurd isBracket (bare bracket (by simp [inFront]))
    obtain ⟨front, back, rfl, filled, behind, later⟩ := ih further
    refine ⟨.blank occurrence :: front, back, rfl, ?_, behind, later⟩
    rw [fillPieces, found, filled]

/-! ## Stories without literal blanks -/

theorem Stable.of_append {parts others : List Piece} (stable : Stable (parts ++ others)) :
    Stable others := by
  induction parts with
  | nil => exact stable
  | cons part parts ih =>
    cases stable with
    | literal nothing tail => exact ih tail
    | blank proper tail => exact ih tail

theorem fillPieces_of_occurrences_eq_nil {parts : List Piece} (none : occurrences parts = [])
    (unnumbered : Nat) : fillPieces answers unnumbered parts = parts.flatMap Piece.written := by
  apply fillPieces_of_unanswered
  intro occurrence member
  rw [none] at member
  cases member

theorem framed_of_braces {template : String} {before rest : List Char}
    (answered : Answered answers 0 (pieces template.toList))
    (split : fillPieces answers 0 (pieces template.toList) = before ++ rest)
    (braces : Braces rest) : Framed answers template := by
  obtain ⟨body, after, isBody, rfl⟩ := braces.exists_body
  obtain ⟨front, later, parts, -, filled, answered⟩ := answered.exists_literal (by decide) split
  obtain ⟨inner, back, rfl, rfl, -, -⟩ := answered.exists_literal (by decide) filled
  refine ⟨front, inner, back, parts, ?_, isBody⟩
  -- Without a blank in between, the braces would have been those of a blank of the template.
  intro none
  have stable := stable_pieces template.toList
  rw [parts] at stable
  cases stable.of_append with
  | literal nothing tail =>
    rw [fillPieces_of_occurrences_eq_nil none] at isBody
    have begins := isBody.braces (back.flatMap Piece.written)
    rw [List.flatMap_append, List.flatMap_cons] at nothing
    exact (readBlank_eq_none_iff_not_braces.1 nothing).1 begins

theorem Framed.exists_braces {template : String} (framed : Framed answers template) :
    ∃ before rest, fillPieces answers 0 (pieces template.toList) = before ++ rest ∧
      Braces rest := by
  obtain ⟨front, inner, back, parts, -, isBody⟩ := framed
  rw [parts, fillPieces_append, fillPieces, fillPieces_append, fillPieces]
  exact ⟨_, _, rfl, isBody.braces _⟩

theorem blanks_fill_eq_nil_iff {template : String}
    (answered : Answered answers 0 (pieces template.toList)) :
    blanks (fill template answers) = [] ↔ ¬ Framed answers template := by
  rw [blanks, List.map_eq_nil_iff, fill, String.toList_ofList, occurrences_pieces_eq_nil_iff]
  constructor
  · intro nowhere framed
    obtain ⟨before, rest, split, braces⟩ := framed.exists_braces
    exact nowhere before rest split braces
  · intro unframed before rest split braces
    exact unframed (framed_of_braces answered split braces)

/-! ## Collected answers -/

def Defined (blanks : List Blank) : Prop :=
  ∀ id, .reference id ∈ blanks → ∃ label, .numbered id label ∈ blanks

theorem exists_get?_recorded_of_numbered {blanks : List Blank} {replies : List (Option String)}
    (apart : ∀ blank ∈ blanks, blank.Apart) (fit : Fit (questions blanks) replies)
    {id label : String} (member : .numbered id label ∈ blanks) :
    ∃ reply, (recorded blanks replies).get? id = some reply := by
  have defines : (Blank.numbered id label).defines id = true := by simp [Blank.defines]
  cases defined : blanks.findIdx? (·.defines id) with
  | none =>
    have nowhere := List.findIdx?_eq_none_iff.1 defined _ member
    rw [nowhere] at defines
    cases defines
  | some first =>
    obtain ⟨reply, -, found⟩ := get?_recorded_of_first apart fit defined
    exact ⟨reply, found⟩

theorem exists_get?_recorded {blanks earlier later : List Blank} {blank : Blank}
    {replies : List (Option String)} (apart : ∀ blank ∈ blanks, blank.Apart)
    (fit : Fit (questions blanks) replies) (defined : Defined blanks)
    (split : blanks = earlier ++ blank :: later) :
    ∃ reply, (recorded blanks replies).get? (blank.key (earlier.foldl Blank.advance 0)) =
      some reply := by
  have member : blank ∈ blanks := by simp [split]
  cases blank with
  | numbered id label => exact exists_get?_recorded_of_numbered apart fit member
  | unnumbered label =>
    have there : blanks[earlier.length]? = some (.unnumbered label) := by simp [split]
    have before : blanks.take earlier.length = earlier := by simp [split]
    obtain ⟨reply, replied⟩ := fit.reply there rfl
    have found := get?_recorded apart fit there replied
    rw [before] at found
    exact ⟨reply, found⟩
  | reference id =>
    obtain ⟨label, defining⟩ := defined id member
    exact exists_get?_recorded_of_numbered apart fit defining

theorem answered_recorded {blanks : List Blank} {replies : List (Option String)}
    (apart : ∀ blank ∈ blanks, blank.Apart) (fit : Fit (questions blanks) replies)
    (defined : Defined blanks)
    (bare : ∀ reply, some reply ∈ replies → ∀ c ∈ reply.toList, c ∉ brackets)
    (earlier : List Blank) (parts : List Piece)
    (all : blanks = earlier ++ (occurrences parts).map Occurrence.blank) :
    Answered (recorded blanks replies) (earlier.foldl Blank.advance 0) parts := by
  induction parts generalizing earlier with
  | nil => exact .nil
  | cons part parts ih =>
    cases part with
    | literal c => exact .literal (ih earlier all)
    | blank occurrence =>
      have split : blanks =
          earlier ++ occurrence.blank :: (occurrences parts).map Occurrence.blank := all
      obtain ⟨reply, found⟩ := exists_get?_recorded apart fit defined split
      have tail := ih (earlier ++ [occurrence.blank]) (by simp [split])
      rw [List.foldl_append] at tail
      exact .blank found (bare reply (mem_replies_of_get?_recorded found)) tail

/-- When every blank has been answered without brackets and braces, what is left to be found in the
filled story are the places where braces of the template frame answers. -/
theorem leftover_iff {ε σ : Type} (ask : String → ExceptT ε (StateM σ) String)
    (obliging : ObligingWith (fun reply => ∀ c ∈ reply.toList, c ∉ brackets) ask)
    (template : String) (defined : Defined (blanks template)) (state : σ) :
    ∃ answers last,
      (collect ask (blanks template)).run.run state = (.ok answers, last) ∧
        (blanks (fill template answers) = [] ↔ ¬ Framed answers template) := by
  have apart : ∀ blank ∈ blanks template, blank.Apart :=
    fun blank member => (proper_of_mem_blanks member).apart
  obtain ⟨replies, last, asked, fit, bare⟩ := obliging.mapM (questions (blanks template)) state
  refine ⟨recorded (blanks template) replies, last, ?_, ?_⟩
  · rw [collect_eq_map ask _ apart, map_eq_pure_bind, run_bind_of_ok asked]
    rfl
  · exact blanks_fill_eq_nil_iff (answered_recorded apart fit defined bare [] _ rfl)

def framingTemplate : String :=
  "[new] \x7b1:noun\x7d \x7b\x7bverb\x7d\x7d \x7b\x7b1\x7d or \x7b1:name\x7d\x7d"

theorem leftover_iff_framing :
    ObligingWith (fun reply => ∀ c ∈ reply.toList, c ∉ brackets) countingReply ∧
      Defined (blanks framingTemplate) ∧
      ∃ answers last,
        (collect countingReply (blanks framingTemplate)).run.run 0 = (.ok answers, last) ∧
          (blanks (fill framingTemplate answers) = [] ↔ ¬ Framed answers framingTemplate) := by
  have obliging :
      ObligingWith (fun reply => ∀ c ∈ reply.toList, c ∉ brackets) countingReply := by
    intro question asked
    refine ⟨toString asked, asked + 1, rfl, ?_⟩
    intro c member
    rw [Nat.toString_eq_repr, Nat.toList_repr] at member
    have digit : c.isDigit = true := Nat.isDigit_of_mem_toDigits (by decide) (by decide) member
    have noDigits : ∀ bracket ∈ brackets, bracket.isDigit = false := by simp [brackets]
    intro isBracket
    rw [noDigits c isBracket] at digit
    cases digit
  have found : blanks framingTemplate =
      [.numbered "1" "noun", .unnumbered "verb", .reference "1", .numbered "1" "name"] := by
    decide +kernel
  have defined : Defined (blanks framingTemplate) := by
    rw [found]
    intro id member
    simp only [List.mem_cons, reduceCtorEq, Blank.reference.injEq, List.not_mem_nil, or_false,
      false_or] at member
    subst member
    exact ⟨"noun", List.mem_cons_self⟩
  exact ⟨obliging, defined, leftover_iff countingReply obliging framingTemplate defined 0⟩

def bracedTemplate : String := "\x7b\x7bnoun\x7d\x7d"

def steadyReply (_question : String) : ExceptT Empty (StateM Unit) String := pure "x"

theorem braced_leftover :
    ObligingWith (fun reply => ∀ c ∈ reply.toList, c ∉ brackets) steadyReply ∧
      Defined (blanks bracedTemplate) ∧
      ∃ answers last,
        (collect steadyReply (blanks bracedTemplate)).run.run () = (.ok answers, last) ∧
          fill bracedTemplate answers = "\x7bx\x7d" ∧
          blanks (fill bracedTemplate answers) = [.unnumbered "x"] := by
  have found : blanks bracedTemplate = [.unnumbered "noun"] := by decide +kernel
  have filled : fill bracedTemplate (.ofList [("unnumbered_0", "x")]) = "\x7bx\x7d" := by decide +kernel
  have left : blanks "\x7bx\x7d" = [.unnumbered "x"] := by decide +kernel
  refine ⟨fun _ state => ⟨"x", state, rfl, by simp [brackets]⟩, ?_, .ofList [("unnumbered_0", "x")], (), ?_,
    filled, ?_⟩
  · intro id member
    simp [found] at member
  · rw [found]
    rfl
  · rw [filled, left]

end Parlor.Story
