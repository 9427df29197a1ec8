import Parlor.Proofs.Story.Answers
import Parlor.Story.Fill

namespace Parlor.Story

def Blank.id? : Blank → Option String
  | .numbered id _ => some id
  | .unnumbered _ => none
  | .reference id => some id

/-- The text that comes of the parts of a template whose blanks were given these replies, from the
blank with the number `place` on. -/
inductive Filled (blanks : List Blank) (replies : List (Option String)) :
    Nat → List Piece → List Char → Prop
  | done {place} : Filled blanks replies place [] []
  | literal {place c rest text} (tail : Filled blanks replies place rest text) :
      Filled blanks replies place (.literal c :: rest) (c :: text)
  | named {place occurrence id first reply rest text} (name : occurrence.blank.id? = some id)
      (defined : blanks.findIdx? (·.defines id) = some first)
      (replied : replies[first]? = some (some reply))
      (tail : Filled blanks replies (place + 1) rest text) :
      Filled blanks replies place (.blank occurrence :: rest) (reply.toList ++ text)
  | unnamed {place occurrence label reply rest text}
      (own : occurrence.blank = .unnumbered label) (replied : replies[place]? = some (some reply))
      (tail : Filled blanks replies (place + 1) rest text) :
      Filled blanks replies place (.blank occurrence :: rest) (reply.toList ++ text)
  | undefined {place occurrence id rest text} (name : occurrence.blank = .reference id)
      (nowhere : ∀ blank ∈ blanks, blank.defines id = false)
      (tail : Filled blanks replies (place + 1) rest text) :
      Filled blanks replies place (.blank occurrence :: rest) (occurrence.written ++ text)

theorem Blank.eq_of_defines {blank : Blank} {id : String} (h : blank.defines id = true) :
    ∃ label, blank = .numbered id label := by
  cases blank with
  | numbered other label =>
    obtain rfl : other = id := by simpa [Blank.defines] using h
    exact ⟨label, rfl⟩
  | unnumbered label => cases h
  | reference id => cases h

theorem get?_recorded_of_first {blanks : List Blank} {replies : List (Option String)}
    (apart : ∀ blank ∈ blanks, blank.Apart) (fit : Fit (questions blanks) replies) {id : String}
    {first : Nat} (defined : blanks.findIdx? (·.defines id) = some first) :
    ∃ reply, replies[first]? = some (some reply) ∧
      (recorded blanks replies).get? id = some reply := by
  obtain ⟨bound, defines, before⟩ := List.findIdx?_eq_some_iff_getElem.1 defined
  obtain ⟨label, found⟩ := Blank.eq_of_defines defines
  have there : blanks[first]? = some (.numbered id label) := by
    rw [List.getElem?_eq_getElem bound, found]
  have fresh : (blanks.take first).any (·.defines id) = false := by
    apply List.any_eq_false.2
    intro blank member
    obtain ⟨place, lt, rfl⟩ := List.mem_take_iff_getElem.1 member
    exact before place (by omega)
  have asked : (Blank.numbered id label).question? (blanks.take first) =
      some (promptText label) := by
    rw [Blank.question?, fresh]
    rfl
  obtain ⟨reply, replied⟩ := fit.reply there asked
  exact ⟨reply, replied, get?_recorded apart fit there replied⟩

theorem filled_named {replies : List (Option String)} {blanks : List Blank}
    (apart : ∀ blank ∈ blanks, blank.Apart) (fit : Fit (questions blanks) replies) {place : Nat}
    {occurrence : Occurrence} {id : String} (name : occurrence.blank.id? = some id)
    {definition : Blank} (member : definition ∈ blanks) (defines : definition.defines id = true)
    {rest : List Piece} {text : List Char} (tail : Filled blanks replies (place + 1) rest text) :
    ∃ reply, (recorded blanks replies).get? id = some reply ∧
      Filled blanks replies place (.blank occurrence :: rest) (reply.toList ++ text) := by
  cases defined : blanks.findIdx? (·.defines id) with
  | none =>
    have nowhere := List.findIdx?_eq_none_iff.1 defined definition member
    rw [nowhere] at defines
    cases defines
  | some first =>
    obtain ⟨reply, replied, found⟩ := get?_recorded_of_first apart fit defined
    exact ⟨reply, found, .named name defined replied tail⟩

theorem filled_reference {replies : List (Option String)} {blanks : List Blank}
    (proper : ∀ blank ∈ blanks, blank.Proper) (fit : Fit (questions blanks) replies) {place : Nat}
    {occurrence : Occurrence} {id : String} (kind : occurrence.blank = .reference id)
    (member : .reference id ∈ blanks) {rest : List Piece} {text : List Char}
    (tail : Filled blanks replies (place + 1) rest text) :
    (∃ reply, (recorded blanks replies).get? id = some reply ∧
        Filled blanks replies place (.blank occurrence :: rest) (reply.toList ++ text)) ∨
      (recorded blanks replies).get? id = none ∧
        Filled blanks replies place (.blank occurrence :: rest) (occurrence.written ++ text) := by
  have apart : ∀ blank ∈ blanks, blank.Apart := fun blank member => (proper blank member).apart
  have name : occurrence.blank.id? = some id := by rw [kind]; rfl
  by_cases defined : ∃ definition ∈ blanks, definition.defines id = true
  · obtain ⟨definition, defining, defines⟩ := defined
    exact .inl (filled_named apart fit name defining defines tail)
  · have nowhere : ∀ blank ∈ blanks, blank.defines id = false := by
      intro blank defining
      apply Bool.eq_false_iff.2
      intro defines
      exact defined ⟨blank, defining, defines⟩
    have free := (proper _ member).ne_unnumberedKey
    exact .inr ⟨get?_recorded_eq_none fit free nowhere, .undefined kind nowhere tail⟩

theorem filled_blank {replies : List (Option String)} {blanks earlier later : List Blank}
    (proper : ∀ blank ∈ blanks, blank.Proper) (fit : Fit (questions blanks) replies)
    {occurrence : Occurrence} (split : blanks = earlier ++ occurrence.blank :: later)
    {rest : List Piece} {text : List Char}
    (tail : Filled blanks replies (earlier.length + 1) rest text) :
    let answer := (recorded blanks replies).get?
      (occurrence.blank.key (earlier.foldl Blank.advance 0))
    (∃ reply, answer = some reply ∧
        Filled blanks replies earlier.length (.blank occurrence :: rest)
          (reply.toList ++ text)) ∨
      answer = none ∧
        Filled blanks replies earlier.length (.blank occurrence :: rest)
          (occurrence.written ++ text) := by
  have apart : ∀ blank ∈ blanks, blank.Apart := fun blank member => (proper blank member).apart
  have member : occurrence.blank ∈ blanks := by simp [split]
  cases kind : occurrence.blank with
  | numbered id label =>
    rw [kind] at member
    have name : occurrence.blank.id? = some id := by rw [kind]; rfl
    have defines : (Blank.numbered id label).defines id = true := by simp [Blank.defines]
    exact .inl (filled_named apart fit name member defines tail)
  | unnumbered label =>
    have there : blanks[earlier.length]? = some (.unnumbered label) := by simp [split, kind]
    have before : blanks.take earlier.length = earlier := by simp [split]
    obtain ⟨reply, replied⟩ := fit.reply there rfl
    have found := get?_recorded apart fit there replied
    rw [before] at found
    exact .inl ⟨reply, found, .unnamed kind replied tail⟩
  | reference id =>
    rw [kind] at member
    exact filled_reference proper fit kind member tail

theorem filled_fillPieces {replies : List (Option String)} {blanks : List Blank}
    (proper : ∀ blank ∈ blanks, blank.Proper) (fit : Fit (questions blanks) replies)
    (earlier : List Blank) (parts : List Piece)
    (all : blanks = earlier ++ (occurrences parts).map Occurrence.blank) :
    Filled blanks replies earlier.length parts
      (fillPieces (recorded blanks replies) (earlier.foldl Blank.advance 0) parts) := by
  induction parts generalizing earlier with
  | nil => exact .done
  | cons part rest ih =>
    cases part with
    | literal c => exact .literal (ih earlier all)
    | blank occurrence =>
      have split : blanks =
          earlier ++ occurrence.blank :: (occurrences rest).map Occurrence.blank := all
      have tail := ih (earlier ++ [occurrence.blank]) (by simp [split])
      rw [List.length_append, List.length_singleton, List.foldl_append] at tail
      rw [fillPieces]
      rcases filled_blank proper fit split tail with ⟨reply, found, filled⟩ | ⟨missing, filled⟩
      · rw [found]
        exact filled
      · rw [missing]
        exact filled

theorem proper_of_mem_pieces {text : List Char} {occurrence : Occurrence}
    (h : .blank occurrence ∈ pieces text) : occurrence.Proper := by
  fun_induction pieces text with
  | case1 => cases h
  | case2 c text first rest read ih =>
    rcases List.mem_cons.1 h with same | h
    · cases same
      exact proper_of_readBlank read
    · exact ih h
  | case3 c text nothing ih =>
    rcases List.mem_cons.1 h with same | h
    · cases same
    · exact ih h

theorem proper_of_mem_blanks {template : String} {blank : Blank} (h : blank ∈ blanks template) :
    blank.Proper := by
  obtain ⟨occurrence, member, rfl⟩ := List.mem_map.1 h
  obtain ⟨part, there, found⟩ := List.mem_filterMap.1 member
  cases part with
  | literal c => cases found
  | blank other =>
    cases found
    exact (proper_of_mem_pieces there).blank

/-- Whoever always replies gets the template back with its literal text, with the replies in place
of the blanks, and with the references that nothing defines. -/
theorem fill_collect {ε σ : Type} (ask : String → ExceptT ε (StateM σ) String)
    (obliging : Obliging ask) (template : String) (state : σ) :
    (pieces template.toList).flatMap Piece.written = template.toList ∧
      ∃ answers replies last,
        (collect ask (blanks template)).run.run state = (.ok answers, last) ∧
        ((questions (blanks template)).mapM (Option.mapM ask)).run.run state =
          (.ok replies, last) ∧
        Fit (questions (blanks template)) replies ∧
        Filled (blanks template) replies 0 (pieces template.toList)
          (fill template answers).toList := by
  have proper : ∀ blank ∈ blanks template, blank.Proper := fun _ => proper_of_mem_blanks
  obtain ⟨replies, last, asked, fit⟩ := obliging.mapM (questions (blanks template)) state
  refine ⟨flatMap_written_pieces _, recorded (blanks template) replies, replies, last, ?_, asked,
    fit, ?_⟩
  · rw [collect_eq_map ask _ fun blank member => (proper blank member).apart, map_eq_pure_bind,
      run_bind_of_ok asked]
    rfl
  · rw [fill, String.toList_ofList]
    exact filled_fillPieces proper fit [] _ rfl

def repetitiveTemplate : String :=
  "\x7b2\x7d [new] \x7b1:noun\x7d \x7bverb\x7d \x7b1\x7d, \x7b1:name\x7d"

def countingReply (_question : String) : ExceptT Empty (StateM Nat) String := do
  let asked ← get
  set (asked + 1)
  pure (toString asked)

theorem fill_collect_counting :
    Obliging countingReply ∧
      (pieces repetitiveTemplate.toList).flatMap Piece.written = repetitiveTemplate.toList ∧
      ∃ answers replies last,
        (collect countingReply (blanks repetitiveTemplate)).run.run 0 = (.ok answers, last) ∧
        ((questions (blanks repetitiveTemplate)).mapM (Option.mapM countingReply)).run.run 0 =
          (.ok replies, last) ∧
        Fit (questions (blanks repetitiveTemplate)) replies ∧
        Filled (blanks repetitiveTemplate) replies 0 (pieces repetitiveTemplate.toList)
          (fill repetitiveTemplate answers).toList := by
  have obliging : Obliging countingReply := fun _ asked => ⟨toString asked, asked + 1, rfl⟩
  exact ⟨obliging, fill_collect countingReply obliging repetitiveTemplate 0⟩

example : fill repetitiveTemplate (.ofList [("1", "0"), ("unnumbered_0", "1")]) =
    "\x7b2\x7d 0 1 0, 0" := by cbv

end Parlor.Story
