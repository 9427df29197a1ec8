import Parlor.Proofs.Story.Answers

namespace Parlor.Story

section Asking

variable {ε σ : Type}

/-- The same replies, with a list of the questions so far in the state. -/
def noting (ask : String → ExceptT ε (StateM σ) String) (question : String) :
    ExceptT ε (StateM (List String × σ)) String :=
  ExceptT.mk fun (asked, state) =>
    let (reply, next) := (ask question).run.run state
    (reply, asked ++ [question], next)

inductive Replies (ask : String → ExceptT ε (StateM σ) String) :
    σ → List String → List String → σ → Prop
  | done {state} : Replies ask state [] [] state
  | next {state question reply between questions replies last}
      (given : (ask question).run.run state = (.ok reply, between))
      (later : Replies ask between questions replies last) :
      Replies ask state (question :: questions) (reply :: replies) last

/-- What was asked and what came of it: all replies, or the error with which a question was
refused. -/
inductive Interview (ask : String → ExceptT ε (StateM σ) String) (state : σ)
    (questions : List String) : List String → Except ε (List String) → σ → Prop
  | complete {replies last} (given : Replies ask state questions replies last) :
      Interview ask state questions questions (.ok replies) last
  | refused {earlier question later replies between error last}
      (split : questions = earlier ++ question :: later)
      (given : Replies ask state earlier replies between)
      (refusal : (ask question).run.run between = (.error error, last)) :
      Interview ask state questions (earlier ++ [question]) (.error error) last

end Asking

def requestsFrom (earlier : List Blank) : List Blank → List (String × String)
  | [] => []
  | blank :: rest =>
    ((blank.question? earlier).map fun question =>
      (blank.key (earlier.countP Blank.isUnnumbered), question)).toList ++
    requestsFrom (earlier ++ [blank]) rest

def requests (blanks : List Blank) : List (String × String) := requestsFrom [] blanks

def requestedKeys (blanks : List Blank) : List String := (requests blanks).map Prod.fst

def prompts (blanks : List Blank) : List String := (requests blanks).map Prod.snd

theorem requestsFrom_eq_entriesFrom (earlier blanks : List Blank) :
    requestsFrom earlier blanks =
      entriesFrom (earlier.countP Blank.isUnnumbered) blanks (questionsFrom earlier blanks) := by
  induction blanks generalizing earlier with
  | nil => rfl
  | cons blank rest ih =>
    have later := ih (earlier ++ [blank])
    rw [List.countP_append, ← Blank.advance_eq] at later
    rw [requestsFrom, later, questionsFrom]
    cases blank.question? earlier <;> rfl

theorem nodup_requestedKeys {blanks : List Blank} (apart : ∀ blank ∈ blanks, blank.Apart) :
    (requestedKeys blanks).Nodup := by
  rw [requestedKeys, requests, requestsFrom_eq_entriesFrom]
  exact nodup_keys apart rfl

theorem length_requestedKeys (blanks : List Blank) :
    (requestedKeys blanks).length = (prompts blanks).length := by
  rw [requestedKeys, prompts, List.length_map, List.length_map]

theorem length_requested_zip {blanks : List Blank} {replies : List String}
    (each : replies.length = (prompts blanks).length) :
    ((requestedKeys blanks).zip replies).length = (prompts blanks).length := by
  rw [List.length_zip, length_requestedKeys, each, Nat.min_self]

theorem nodup_requested_zip {blanks : List Blank} {replies : List String}
    (apart : ∀ blank ∈ blanks, blank.Apart) (each : replies.length = (prompts blanks).length) :
    (((requestedKeys blanks).zip replies).map Prod.fst).Nodup := by
  have paired : (requestedKeys blanks).length ≤ replies.length :=
    Nat.le_of_eq ((length_requestedKeys blanks).trans each.symm)
  rw [List.map_fst_zip paired]
  exact nodup_requestedKeys apart

section Collecting

variable {m : Type → Type} [Monad m] [LawfulMonad m] (ask : String → m String)

theorem entriesFrom_mapM (earlier blanks : List Blank) :
    (entriesFrom (earlier.countP Blank.isUnnumbered) blanks) <$>
        (questionsFrom earlier blanks).mapM (Option.mapM ask) =
      (((requestsFrom earlier blanks).map Prod.fst).zip ·) <$>
        ((requestsFrom earlier blanks).map Prod.snd).mapM ask := by
  induction blanks generalizing earlier with
  | nil => simp [questionsFrom, requestsFrom, entriesFrom]
  | cons blank rest ih =>
    -- The counter of the one side is the number of unnumbered blanks so far on the other.
    have later := ih (earlier ++ [blank])
    rw [List.countP_append, ← Blank.advance_eq] at later
    rw [questionsFrom, requestsFrom]
    cases blank.question? earlier with
    | none => simpa [List.mapM_cons, entriesFrom] using later
    | some question =>
      simp only [Option.map_some, Option.toList_some, List.singleton_append, List.map_cons,
        List.mapM_cons, Option.mapM_some, map_bind, bind_map_left, map_pure, entriesFrom,
        List.zip_cons_cons]
      refine bind_congr fun reply => ?_
      have here := congrArg
        (((blank.key (earlier.countP Blank.isUnnumbered), reply) :: ·) <$> ·) later
      simpa only [Functor.map_map, map_eq_pure_bind, bind_assoc, pure_bind] using here

theorem collect_eq_map_requests (blanks : List Blank) (apart : ∀ blank ∈ blanks, blank.Apart) :
    collect ask blanks =
      (fun replies => SortedMap.ofList ((requestedKeys blanks).zip replies)) <$>
        (prompts blanks).mapM ask := by
  have entries := congrArg (SortedMap.ofList <$> ·) (entriesFrom_mapM ask [] blanks)
  simp only [Functor.map_map, List.countP_nil] at entries
  rw [collect_eq_map ask blanks apart]
  exact entries

end Collecting

section Course

variable {ε σ : Type} {ask : String → ExceptT ε (StateM σ) String}

theorem Interview.cons {state between last : σ} {question reply : String}
    {questions asked : List String} {outcome : Except ε (List String)}
    (given : (ask question).run.run state = (.ok reply, between))
    (interview : Interview ask between questions asked outcome last) :
    Interview ask state (question :: questions) (question :: asked)
      (outcome.map (reply :: ·)) last := by
  cases interview with
  | complete later => exact .complete (.next given later)
  | refused split later refusal => exact .refused (by rw [split]; rfl) (.next given later) refusal

theorem exists_interview (ask : String → ExceptT ε (StateM σ) String) (state : σ)
    (questions : List String) :
    ∃ asked outcome last, Interview ask state questions asked outcome last := by
  induction questions generalizing state with
  | nil => exact ⟨[], .ok [], state, .complete .done⟩
  | cons question questions ih =>
    cases replied : (ask question).run.run state with
    | mk result next =>
      cases result with
      | ok reply =>
        obtain ⟨asked, outcome, last, interview⟩ := ih next
        exact ⟨_, _, last, interview.cons replied⟩
      | error error =>
        exact ⟨[] ++ [question], .error error, next, .refused rfl .done replied⟩

theorem Interview.isPrefix {state last : σ} {questions asked : List String}
    {outcome : Except ε (List String)}
    (interview : Interview ask state questions asked outcome last) : asked <+: questions := by
  cases interview with
  | complete given => exact List.prefix_rfl
  | @refused earlier question later _ _ _ _ split given refusal =>
    exact ⟨later, by simp [split]⟩

theorem run_noting {state next : σ} {question : String} {result : Except ε String}
    (replied : (ask question).run.run state = (result, next)) (asked : List String) :
    (noting ask question).run.run (asked, state) = (result, asked ++ [question], next) := by
  show (match (ask question).run.run state with
    | (reply, next) => (reply, asked ++ [question], next)) = _
  rw [replied]

theorem run_map_congr {α β τ : Type} (f : α → β) {action other : ExceptT ε (StateM τ) α}
    {state start : τ} (same : action.run.run state = other.run.run start) :
    (f <$> action).run.run state = (f <$> other).run.run start := by
  rw [ExceptT.run_map, ExceptT.run_map, StateT.run_map, StateT.run_map, same]

theorem Replies.run_mapM {state last : σ} {questions replies : List String}
    (given : Replies ask state questions replies last) (asked further : List String) :
    ((questions ++ further).mapM (noting ask)).run.run (asked, state) =
      ((replies ++ ·) <$> further.mapM (noting ask)).run.run (asked ++ questions, last) := by
  -- What comes behind is left open: nothing, or a question that is refused.
  induction given generalizing asked with
  | done => simp
  | @next state question reply between questions replies last given later ih =>
    have step := run_map_congr (reply :: ·) (ih (asked ++ [question]))
    rw [List.cons_append, List.mapM_cons, run_bind_of_ok (run_noting given asked),
      ← map_eq_pure_bind, step, Functor.map_map, List.append_assoc, List.singleton_append]
    rfl

theorem run_bind_of_error {α β τ : Type} {action : ExceptT ε (StateM τ) α}
    {continuation : α → ExceptT ε (StateM τ) β} {state next : τ} {error : ε}
    (h : action.run.run state = (.error error, next)) :
    (action >>= continuation).run.run state = (.error error, next) := by
  rw [ExceptT.run_bind, StateT.run_bind, h]
  rfl

theorem Interview.run_mapM {state last : σ} {questions asked : List String}
    {outcome : Except ε (List String)}
    (interview : Interview ask state questions asked outcome last) :
    (questions.mapM (noting ask)).run.run ([], state) = (outcome, asked, last) := by
  cases interview with
  | complete given =>
    have whole := given.run_mapM [] []
    rw [List.append_nil, List.mapM_nil, map_pure, List.append_nil] at whole
    exact whole
  | refused split given refusal =>
    rw [split, given.run_mapM, ExceptT.run_map, StateT.run_map, List.mapM_cons,
      run_bind_of_error (run_noting refusal _)]
    rfl

theorem run_mapM_eq (ask : String → ExceptT ε (StateM σ) String) (questions asked : List String)
    (state : σ) :
    (questions.mapM ask).run.run state =
      ((questions.mapM (noting ask)).run.run (asked, state)).map id Prod.snd := by
  induction questions generalizing asked state with
  | nil => rfl
  | cons question questions ih =>
    rw [List.mapM_cons, List.mapM_cons]
    cases replied : (ask question).run.run state with
    | mk result next =>
      cases result with
      | error error =>
        rw [run_bind_of_error replied, run_bind_of_error (run_noting replied asked)]
        rfl
      | ok reply =>
        rw [run_bind_of_ok replied, run_bind_of_ok (run_noting replied asked),
          ← map_eq_pure_bind, ← map_eq_pure_bind, ExceptT.run_map, ExceptT.run_map,
          StateT.run_map, StateT.run_map, ih (asked ++ [question])]
        rfl

theorem Replies.length_eq {state last : σ} {questions replies : List String}
    (given : Replies ask state questions replies last) : replies.length = questions.length := by
  induction given with
  | done => rfl
  | next given later ih => rw [List.length_cons, List.length_cons, ih]

end Course

inductive Collected {ε : Type} (blanks : List Blank) :
    Except ε (List String) → Except ε Answers → Prop
  | answers {replies answers} (size : answers.size = (prompts blanks).length)
      (entries : answers.entries.Perm ((requestedKeys blanks).zip replies)) :
      Collected blanks (.ok replies) (.ok answers)
  | error {error} : Collected blanks (.error error) (.error error)

theorem collected_of_length_eq {ε : Type} {blanks : List Blank} {replies : List String}
    (apart : ∀ blank ∈ blanks, blank.Apart) (each : replies.length = (prompts blanks).length) :
    Collected blanks (.ok replies : Except ε (List String))
      (.ok (SortedMap.ofList ((requestedKeys blanks).zip replies))) := by
  have entries := SortedMap.entries_ofList_perm (nodup_requested_zip apart each)
  refine .answers ?_ entries
  rw [SortedMap.size, entries.length_eq, length_requested_zip each]

/-- There is always an interview on the questions that some blanks need, and collecting answers is
just this interview. -/
theorem collect_noting {ε σ : Type} (ask : String → ExceptT ε (StateM σ) String)
    (blanks : List Blank) (apart : ∀ blank ∈ blanks, blank.Apart) (state : σ) :
    (∃ asked outcome last, Interview ask state (prompts blanks) asked outcome last) ∧
      ∀ asked outcome last, Interview ask state (prompts blanks) asked outcome last →
        asked <+: prompts blanks ∧
          ∃ collected,
            (collect (noting ask) blanks).run.run ([], state) = (collected, asked, last) ∧
            (collect ask blanks).run.run state = (collected, last) ∧
            Collected blanks outcome collected := by
  refine ⟨exists_interview ask state (prompts blanks), ?_⟩
  intro asked outcome last interview
  refine ⟨interview.isPrefix, outcome.map fun replies =>
    SortedMap.ofList ((requestedKeys blanks).zip replies), ?_, ?_, ?_⟩
  · rw [collect_eq_map_requests _ blanks apart, ExceptT.run_map, StateT.run_map,
      interview.run_mapM]
    rfl
  · rw [collect_eq_map_requests _ blanks apart, ExceptT.run_map, StateT.run_map,
      run_mapM_eq ask _ [], interview.run_mapM]
    rfl
  · cases interview with
    | complete given => exact collected_of_length_eq apart given.length_eq
    | refused => exact .error

def castBlanks : List Blank :=
  [.reference "hero", .unnumbered "verb", .numbered "hero" "name", .numbered "2" "animal",
    .numbered "hero" "noun", .unnumbered "adverb"]

def tiredReply (question : String) : ExceptT String (StateM Nat) String := do
  let asked ← get
  set (asked + 1)
  if asked < 3 then pure (toString asked) else throw ("no reply to " ++ question)

theorem collect_noting_tired :
    (∀ blank ∈ castBlanks, blank.Apart) ∧
      (∃ asked outcome last, Interview tiredReply 0 (prompts castBlanks) asked outcome last) ∧
      ∀ asked outcome last, Interview tiredReply 0 (prompts castBlanks) asked outcome last →
        asked <+: prompts castBlanks ∧
          ∃ collected,
            (collect (noting tiredReply) castBlanks).run.run ([], 0) = (collected, asked, last) ∧
            (collect tiredReply castBlanks).run.run 0 = (collected, last) ∧
            Collected castBlanks outcome collected := by
  have apart : ∀ blank ∈ castBlanks, blank.Apart := by
    rintro blank member id label rfl place rfl
    have first : (unnumberedKey place).toList.head? = some 'u' := by simp [unnumberedKey]
    simp only [castBlanks, List.mem_cons, reduceCtorEq, Blank.numbered.injEq, List.not_mem_nil,
      or_false, false_or] at member
    rcases member with ⟨same, -⟩ | ⟨same, -⟩ | ⟨same, -⟩ <;> simp [same] at first
  exact ⟨apart, collect_noting tiredReply castBlanks apart 0⟩

example : (collect (noting tiredReply) castBlanks).run.run ([], 0) =
    (.error "no reply to Enter an adverb: ",
      ["Enter a verb: ", "Enter a name: ", "Enter an animal: ", "Enter an adverb: "], 4) := by
  rfl

end Parlor.Story
