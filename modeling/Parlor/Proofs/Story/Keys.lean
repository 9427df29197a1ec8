import Parlor.Proofs.Story.Filling
import Parlor.Proofs.Story.Interview

namespace Parlor.Story

theorem Blank.Proper.isNumber {blank : Blank} (proper : blank.Proper) {id : String}
    (numbered : blank.id? = some id) : IsNumber id := by
  cases blank with
  | numbered other label =>
    cases numbered
    exact proper.1
  | unnumbered label => cases numbered
  | reference other =>
    cases numbered
    exact proper

theorem unnumberedKey_not_mem_ids (template : String) (place : Nat) :
    unnumberedKey place ∉ (blanks template).filterMap Blank.id? := by
  intro clash
  obtain ⟨blank, member, numbered⟩ := List.mem_filterMap.1 clash
  exact ((proper_of_mem_blanks member).isNumber numbered).ne_unnumberedKey place rfl

/-- Entries are written one after the other, each under a key that has no answer yet. -/
inductive WritesAnew : Answers → List (String × String) → Answers → Prop
  | done {answers} : WritesAnew answers [] answers
  | write {answers key reply entries last} (free : answers.contains key = false)
      (later : WritesAnew (answers.insert key reply) entries last) :
      WritesAnew answers ((key, reply) :: entries) last

theorem WritesAnew.size_eq {answers last : Answers} {entries : List (String × String)}
    (writes : WritesAnew answers entries last) : last.size = answers.size + entries.length := by
  induction writes with
  | done => rfl
  | write free later ih =>
    rw [ih, SortedMap.size_insert, free, List.length_cons]
    simp only [Bool.false_eq_true, if_false]
    omega

theorem WritesAnew.eq_insertAll {answers last : Answers} {entries : List (String × String)}
    (writes : WritesAnew answers entries last) : last = answers.insertAll entries := by
  induction writes with
  | done => rfl
  | write free later ih => exact ih

theorem writesAnew_insertAll {entries : List (String × String)} {answers : Answers}
    (distinct : (entries.map Prod.fst).Nodup)
    (free : ∀ entry ∈ entries, answers.contains entry.1 = false) :
    WritesAnew answers entries (answers.insertAll entries) := by
  induction entries generalizing answers with
  | nil => exact .done
  | cons entry entries ih =>
    obtain ⟨absent, distinct⟩ := List.nodup_cons.1 distinct
    refine .write (free entry List.mem_cons_self) (ih distinct ?_)
    intro other member
    have differs : other.1 ≠ entry.1 := fun same => absent (List.mem_map.2 ⟨other, member, same⟩)
    rw [SortedMap.contains_insert, free other (List.mem_cons_of_mem _ member)]
    simpa using differs

section Collecting

variable {ε σ : Type} {ask : String → ExceptT ε (StateM σ) String}

theorem Interview.run_collect {blanks : List Blank} {state last : σ} {asked : List String}
    {outcome : Except ε (List String)} (apart : ∀ blank ∈ blanks, blank.Apart)
    (interview : Interview ask state (prompts blanks) asked outcome last) :
    (collect ask blanks).run.run state =
      (outcome.map fun replies => SortedMap.ofList ((requestedKeys blanks).zip replies), last) := by
  rw [collect_eq_map_requests _ blanks apart, ExceptT.run_map, StateT.run_map,
    run_mapM_eq ask _ [], interview.run_mapM]
  rfl

/-- No two unnumbered blanks have one key, and no blank of a template has a number that is such a
key. Collecting answers for a template succeeds just if all prompts are replied to. Then every reply
was written under a key that had none, and there are as many answers as prompts. -/
theorem collect_writesAnew (ask : String → ExceptT ε (StateM σ) String) (template : String)
    (state : σ) :
    (∀ place other, unnumberedKey place = unnumberedKey other ↔ place = other) ∧
      (∀ place, unnumberedKey place ∉ (blanks template).filterMap Blank.id?) ∧
      ∀ answers last, (collect ask (blanks template)).run.run state = (.ok answers, last) ↔
        ∃ replies, Replies ask state (prompts (blanks template)) replies last ∧
          WritesAnew .empty ((requestedKeys (blanks template)).zip replies) answers ∧
          answers.size = (prompts (blanks template)).length := by
  have apart : ∀ blank ∈ blanks template, blank.Apart :=
    fun blank member => (proper_of_mem_blanks member).apart
  refine ⟨fun _ _ => unnumberedKey_inj, unnumberedKey_not_mem_ids template, ?_⟩
  intro answers last
  constructor
  · intro collected
    obtain ⟨asked, outcome, final, interview⟩ :=
      exists_interview ask state (prompts (blanks template))
    rw [interview.run_collect apart] at collected
    -- Only an interview in which nothing was refused gives answers.
    cases interview with
    | refused => cases collected
    | @complete replies _ given =>
      cases collected
      have distinct := nodup_requested_zip apart given.length_eq
      have writes : WritesAnew .empty ((requestedKeys (blanks template)).zip replies) _ :=
        writesAnew_insertAll distinct fun _ _ => rfl
      refine ⟨replies, given, writes, writes.size_eq.trans ?_⟩
      rw [length_requested_zip given.length_eq]
      exact Nat.zero_add _
  · rintro ⟨replies, given, writes, -⟩
    rw [(Interview.complete given).run_collect apart, writes.eq_insertAll]
    rfl

end Collecting

end Parlor.Story
