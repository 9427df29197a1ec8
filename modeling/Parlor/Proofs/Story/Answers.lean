import Parlor.Proofs.Story.Grammar
import Parlor.Story.Answers

namespace Parlor.Story

theorem unnumberedKey_inj {place other : Nat} :
    unnumberedKey place = unnumberedKey other ↔ place = other := by
  refine ⟨?_, congrArg unnumberedKey⟩
  intro same
  have digits : Nat.toDigits 10 place = Nat.toDigits 10 other := by
    have := congrArg String.toList ((String.append_right_inj _).1 same)
    simpa only [Nat.toString_eq_repr, Nat.toList_repr] using this
  rw [← @Nat.ofDigitChars_ten_toDigits place, digits, Nat.ofDigitChars_ten_toDigits]

theorem IsNumber.ne_unnumberedKey {id : String} (h : IsNumber id) (place : Nat) :
    id ≠ unnumberedKey place := by
  rintro rfl
  have first : 'u' ∈ (unnumberedKey place).toList := by simp [unnumberedKey]
  have digit := h.2 'u' first
  revert digit
  decide

def Blank.Apart (blank : Blank) : Prop :=
  ∀ id label, blank = .numbered id label → ∀ place, id ≠ unnumberedKey place

theorem Blank.Proper.apart {blank : Blank} (h : blank.Proper) : blank.Apart := by
  rintro id label rfl
  exact h.1.ne_unnumberedKey

def Blank.defines (id : String) : Blank → Bool
  | .numbered other _ => other = id
  | _ => false

def Blank.isUnnumbered : Blank → Bool
  | .unnumbered _ => true
  | _ => false

theorem Blank.advance_eq (unnumbered : Nat) (blank : Blank) :
    blank.advance unnumbered = unnumbered + [blank].countP Blank.isUnnumbered := by
  cases blank <;> rfl

def Blank.question? (earlier : List Blank) : Blank → Option String
  | .numbered id label =>
    if earlier.any (·.defines id) then none else some (promptText label)
  | .unnumbered label => some (promptText label)
  | .reference _ => none

def questionsFrom (earlier : List Blank) : List Blank → List (Option String)
  | [] => []
  | blank :: rest => blank.question? earlier :: questionsFrom (earlier ++ [blank]) rest

def questions (blanks : List Blank) : List (Option String) := questionsFrom [] blanks

def entriesFrom (unnumbered : Nat) :
    List Blank → List (Option String) → List (String × String)
  | blank :: rest, some reply :: replies =>
    (blank.key unnumbered, reply) :: entriesFrom (blank.advance unnumbered) rest replies
  | blank :: rest, none :: replies => entriesFrom (blank.advance unnumbered) rest replies
  | _, _ => []

def recorded (blanks : List Blank) (replies : List (Option String)) : Answers :=
  SortedMap.empty.insertAll (entriesFrom 0 blanks replies)

section Collecting

variable {m : Type → Type} [Monad m] [LawfulMonad m] (ask : String → m String)

/-- What is known by a number are the blanks with the number that came earlier. -/
def Knows (answers : Answers) (earlier : List Blank) : Prop :=
  ∀ id, (∀ place, id ≠ unnumberedKey place) →
    answers.contains id = earlier.any (·.defines id)

theorem Knows.pass {answers : Answers} {earlier : List Blank} {blank : Blank}
    (knows : Knows answers earlier)
    (old : ∀ id, blank.defines id = true → earlier.any (·.defines id) = true) :
    Knows answers (earlier ++ [blank]) := by
  intro id free
  rw [knows id free, List.any_append]
  cases defines : blank.defines id with
  | false => simp [defines]
  | true => simp [old id defines]

theorem Knows.insert_numbered {answers : Answers} {earlier : List Blank}
    (knows : Knows answers earlier) (id label reply : String) :
    Knows (answers.insert id reply) (earlier ++ [.numbered id label]) := by
  intro other free
  rw [SortedMap.contains_insert, knows other free, List.any_append]
  simp [Blank.defines, Bool.or_comm, eq_comm]

theorem Knows.insert_unnumbered {answers : Answers} {earlier : List Blank}
    (knows : Knows answers earlier) (unnumbered : Nat) (label reply : String) :
    Knows (answers.insert (unnumberedKey unnumbered) reply) (earlier ++ [.unnumbered label]) := by
  intro other free
  rw [SortedMap.contains_insert, knows other free, List.any_append]
  simp [Blank.defines, free unnumbered]

theorem collectFrom_eq_map (answers : Answers) (earlier : List Blank) (unnumbered : Nat)
    (blanks : List Blank) (apart : ∀ blank ∈ blanks, blank.Apart)
    (knows : Knows answers earlier) :
    collectFrom ask answers unnumbered blanks =
      (fun replies => answers.insertAll (entriesFrom unnumbered blanks replies)) <$>
        (questionsFrom earlier blanks).mapM (Option.mapM ask) := by
  induction blanks generalizing answers earlier unnumbered with
  | nil => simp [collectFrom, questionsFrom, entriesFrom, SortedMap.insertAll]
  | cons blank rest ih =>
    have apartRest : ∀ blank ∈ rest, blank.Apart :=
      fun other member => apart other (List.mem_cons_of_mem _ member)
    cases blank with
    | numbered id label =>
      have free : ∀ place, id ≠ unnumberedKey place := apart _ List.mem_cons_self id label rfl
      rw [collectFrom, questionsFrom, Blank.question?, knows id free]
      split
      · rename_i known
        have stillKnows : Knows answers (earlier ++ [.numbered id label]) := by
          apply knows.pass
          intro other defines
          obtain rfl : id = other := of_decide_eq_true defines
          exact known
        rw [ih _ _ _ apartRest stillKnows]
        simp [List.mapM_cons, entriesFrom, Blank.advance]
      · simp only [ih _ _ _ apartRest (knows.insert_numbered id label _)]
        simp [List.mapM_cons, entriesFrom, Blank.advance, Blank.key, SortedMap.insertAll]
    | unnumbered label =>
      rw [collectFrom, questionsFrom, Blank.question?]
      simp only [ih _ _ _ apartRest (knows.insert_unnumbered unnumbered label _)]
      simp [List.mapM_cons, entriesFrom, Blank.advance, Blank.key, SortedMap.insertAll]
    | reference id =>
      have stillKnows : Knows answers (earlier ++ [.reference id]) := by
        apply knows.pass
        intro other defines
        cases defines
      rw [collectFrom, questionsFrom, Blank.question?, ih _ _ _ apartRest stillKnows]
      simp [List.mapM_cons, entriesFrom, Blank.advance]

theorem collect_eq_map (blanks : List Blank) (apart : ∀ blank ∈ blanks, blank.Apart) :
    collect ask blanks =
      recorded blanks <$> (questions blanks).mapM (Option.mapM ask) :=
  collectFrom_eq_map ask .empty [] 0 blanks apart fun _ _ => rfl

end Collecting

def Fit (questions replies : List (Option String)) : Prop :=
  replies.map Option.isSome = questions.map Option.isSome

theorem fit_cons_iff {question reply : Option String} {questions replies : List (Option String)} :
    Fit (question :: questions) (reply :: replies) ↔
      reply.isSome = question.isSome ∧ Fit questions replies := by
  simp [Fit]

/-- One who is asked always gives a reply, which may depend on what was asked before. -/
def Obliging {ε σ : Type} (ask : String → ExceptT ε (StateM σ) String) : Prop :=
  ∀ question state, ∃ reply next, (ask question).run.run state = (.ok reply, next)

theorem run_bind_of_ok {ε σ α β : Type} {action : ExceptT ε (StateM σ) α}
    {continuation : α → ExceptT ε (StateM σ) β} {state next : σ} {result : α}
    (h : action.run.run state = (.ok result, next)) :
    (action >>= continuation).run.run state = (continuation result).run.run next := by
  rw [ExceptT.run_bind, StateT.run_bind, h]
  rfl

def ObligingWith {ε σ : Type} (allowed : String → Prop)
    (ask : String → ExceptT ε (StateM σ) String) : Prop :=
  ∀ question state, ∃ reply next,
    (ask question).run.run state = (.ok reply, next) ∧ allowed reply

theorem ObligingWith.mapM {ε σ : Type} {allowed : String → Prop}
    {ask : String → ExceptT ε (StateM σ) String} (obliging : ObligingWith allowed ask)
    (questions : List (Option String)) (state : σ) :
    ∃ replies last, (questions.mapM (Option.mapM ask)).run.run state = (.ok replies, last) ∧
      Fit questions replies ∧ ∀ reply, some reply ∈ replies → allowed reply := by
  induction questions generalizing state with
  | nil => exact ⟨[], state, rfl, rfl, by simp⟩
  | cons question questions ih =>
    cases question with
    | none =>
      obtain ⟨replies, last, asked, fit, all⟩ := ih state
      refine ⟨none :: replies, last, ?_, fit_cons_iff.2 ⟨rfl, fit⟩, by simpa using all⟩
      rw [List.mapM_cons, Option.mapM_none, pure_bind, run_bind_of_ok asked]
      rfl
    | some question =>
      obtain ⟨reply, next, replied, first⟩ := obliging question state
      obtain ⟨replies, last, asked, fit, all⟩ := ih next
      refine ⟨some reply :: replies, last, ?_, fit_cons_iff.2 ⟨rfl, fit⟩, ?_⟩
      · rw [List.mapM_cons, Option.mapM_some, map_eq_pure_bind, bind_assoc,
          run_bind_of_ok replied, pure_bind, run_bind_of_ok asked]
        rfl
      · intro other member
        rcases List.mem_cons.1 member with same | member
        · cases same
          exact first
        · exact all other member

theorem Obliging.mapM {ε σ : Type} {ask : String → ExceptT ε (StateM σ) String}
    (obliging : Obliging ask) (questions : List (Option String)) (state : σ) :
    ∃ replies last, (questions.mapM (Option.mapM ask)).run.run state = (.ok replies, last) ∧
      Fit questions replies := by
  have obligingWith : ObligingWith (fun _ => True) ask := by
    intro question state
    obtain ⟨reply, next, replied⟩ := obliging question state
    exact ⟨reply, next, replied, trivial⟩
  obtain ⟨replies, last, asked, fit, -⟩ := obligingWith.mapM questions state
  exact ⟨replies, last, asked, fit⟩

theorem key_of_mem_entriesFrom {earlier blanks : List Blank} {unnumbered : Nat}
    {replies : List (Option String)} (fit : Fit (questionsFrom earlier blanks) replies)
    {entry : String × String} (member : entry ∈ entriesFrom unnumbered blanks replies) :
    (∃ place, unnumbered ≤ place ∧ entry.1 = unnumberedKey place) ∨
      (∃ label, .numbered entry.1 label ∈ blanks) ∧ earlier.any (·.defines entry.1) = false := by
  induction blanks generalizing earlier unnumbered replies with
  | nil => simp [entriesFrom] at member
  | cons blank rest ih =>
    cases replies with
    | nil => simp [entriesFrom] at member
    | cons reply replies =>
      obtain ⟨here, fitRest⟩ := fit_cons_iff.1 fit
      have later (found : entry ∈ entriesFrom (blank.advance unnumbered) rest replies) :
          (∃ place, unnumbered ≤ place ∧ entry.1 = unnumberedKey place) ∨
            (∃ label, .numbered entry.1 label ∈ blank :: rest) ∧
              earlier.any (·.defines entry.1) = false := by
        have advanced : unnumbered ≤ blank.advance unnumbered := by
          cases blank <;> simp [Blank.advance]
        rcases ih fitRest found with ⟨place, le, same⟩ | ⟨⟨label, defined⟩, fresh⟩
        · exact .inl ⟨place, by omega, same⟩
        · rw [List.any_append, Bool.or_eq_false_iff] at fresh
          exact .inr ⟨⟨label, List.mem_cons_of_mem _ defined⟩, fresh.1⟩
      cases reply with
      | none => exact later member
      | some reply =>
        rcases List.mem_cons.1 member with rfl | member
        · cases blank with
          | numbered id label =>
            refine .inr ⟨⟨label, List.mem_cons_self⟩, ?_⟩
            simpa [Blank.question?, Blank.key] using here
          | unnumbered label => exact .inl ⟨unnumbered, Nat.le_refl _, rfl⟩
          | reference id => simp [Blank.question?] at here
        · exact later member

theorem nodup_keys {earlier blanks : List Blank} {unnumbered : Nat}
    {replies : List (Option String)} (apart : ∀ blank ∈ blanks, blank.Apart)
    (fit : Fit (questionsFrom earlier blanks) replies) :
    ((entriesFrom unnumbered blanks replies).map Prod.fst).Nodup := by
  induction blanks generalizing earlier unnumbered replies with
  | nil => simp [entriesFrom]
  | cons blank rest ih =>
    cases replies with
    | nil => simp [entriesFrom]
    | cons reply replies =>
      obtain ⟨here, fitRest⟩ := fit_cons_iff.1 fit
      have apartRest : ∀ blank ∈ rest, blank.Apart :=
        fun other member => apart other (List.mem_cons_of_mem _ member)
      cases reply with
      | none => exact ih apartRest fitRest
      | some reply =>
        refine List.nodup_cons.2 ⟨?_, ih apartRest fitRest⟩
        intro repeated
        obtain ⟨entry, member, same⟩ := List.mem_map.1 repeated
        have key := key_of_mem_entriesFrom fitRest member
        rw [same] at key
        cases blank with
        | numbered id label =>
          rcases key with ⟨place, -, clash⟩ | ⟨-, fresh⟩
          · exact apart _ List.mem_cons_self id label rfl place clash
          · simp [Blank.key, Blank.defines] at fresh
        | unnumbered label =>
          rcases key with ⟨place, le, clash⟩ | ⟨⟨label, defined⟩, -⟩
          · have := unnumberedKey_inj.1 clash
            simp only [Blank.advance] at le
            omega
          · exact apartRest _ defined _ label rfl unnumbered rfl
        | reference id => simp [Blank.question?] at here

theorem mem_entriesFrom {blanks : List Blank} {replies : List (Option String)} {place : Nat}
    {blank : Blank} {reply : String} (unnumbered : Nat) (there : blanks[place]? = some blank)
    (replied : replies[place]? = some (some reply)) :
    (blank.key ((blanks.take place).foldl Blank.advance unnumbered), reply) ∈
      entriesFrom unnumbered blanks replies := by
  induction place generalizing blanks replies unnumbered with
  | zero =>
    cases blanks with
    | nil => cases there
    | cons first rest =>
      cases replies with
      | nil => cases replied
      | cons reply replies =>
        simp only [List.getElem?_cons_zero, Option.some.injEq] at there replied
        subst there replied
        exact List.mem_cons_self
  | succ place ih =>
    cases blanks with
    | nil => cases there
    | cons first rest =>
      cases replies with
      | nil => cases replied
      | cons earlier replies =>
        simp only [List.getElem?_cons_succ] at there replied
        have later := ih (first.advance unnumbered) there replied
        cases earlier with
        | none => exact later
        | some earlier => exact List.mem_cons_of_mem _ later

theorem mem_replies_of_mem_entriesFrom {blanks : List Blank} {replies : List (Option String)}
    {unnumbered : Nat} {entry : String × String}
    (h : entry ∈ entriesFrom unnumbered blanks replies) : some entry.2 ∈ replies := by
  fun_induction entriesFrom unnumbered blanks replies with
  | case1 unnumbered blank rest reply replies ih =>
    rcases List.mem_cons.1 h with rfl | h
    · exact List.mem_cons_self
    · exact List.mem_cons_of_mem _ (ih h)
  | case2 unnumbered blank rest replies ih => exact List.mem_cons_of_mem _ (ih h)
  | case3 => cases h

theorem mem_replies_of_get?_recorded {blanks : List Blank} {replies : List (Option String)}
    {key reply : String} (h : (recorded blanks replies).get? key = some reply) :
    some reply ∈ replies := by
  rcases SortedMap.mem_of_get?_insertAll h with empty | member
  · cases empty
  · exact mem_replies_of_mem_entriesFrom member

theorem get?_recorded {blanks : List Blank} {replies : List (Option String)}
    (apart : ∀ blank ∈ blanks, blank.Apart) (fit : Fit (questions blanks) replies) {place : Nat}
    {blank : Blank} {reply : String} (there : blanks[place]? = some blank)
    (replied : replies[place]? = some (some reply)) :
    (recorded blanks replies).get? (blank.key ((blanks.take place).foldl Blank.advance 0)) =
      some reply :=
  SortedMap.get?_insertAll_of_mem _ (nodup_keys apart fit) (mem_entriesFrom 0 there replied)

theorem get?_recorded_eq_none {blanks : List Blank} {replies : List (Option String)} {id : String}
    (fit : Fit (questions blanks) replies) (free : ∀ place, id ≠ unnumberedKey place)
    (undefined : ∀ blank ∈ blanks, blank.defines id = false) :
    (recorded blanks replies).get? id = none := by
  refine SortedMap.get?_insertAll_of_forall_ne _ ?_
  rintro entry member rfl
  rcases key_of_mem_entriesFrom fit member with ⟨place, -, clash⟩ | ⟨⟨label, defined⟩, -⟩
  · exact free place clash
  · simpa [Blank.defines] using undefined _ defined

theorem getElem?_questionsFrom (earlier blanks : List Blank) (place : Nat) :
    (questionsFrom earlier blanks)[place]? =
      blanks[place]?.map (Blank.question? (earlier ++ blanks.take place)) := by
  induction blanks generalizing earlier place with
  | nil => rfl
  | cons blank rest ih =>
    cases place with
    | zero => simp [questionsFrom]
    | succ place => simp [questionsFrom, ih]

theorem Fit.reply {blanks : List Blank} {replies : List (Option String)}
    (fit : Fit (questions blanks) replies) {place : Nat} {blank : Blank} {question : String}
    (there : blanks[place]? = some blank)
    (asked : blank.question? (blanks.take place) = some question) :
    ∃ reply, replies[place]? = some (some reply) := by
  have raised : (questions blanks)[place]? = some (some question) := by
    rw [questions, getElem?_questionsFrom, there, Option.map_some, List.nil_append, asked]
  have same := congrArg (fun places : List Bool => places[place]?) fit
  simp only [List.getElem?_map, raised, Option.map_some, Option.isSome_some,
    Option.map_eq_some_iff] at same
  obtain ⟨reply, found, isSome⟩ := same
  obtain ⟨reply, rfl⟩ := Option.isSome_iff_exists.1 isSome
  exact ⟨reply, found⟩

end Parlor.Story
