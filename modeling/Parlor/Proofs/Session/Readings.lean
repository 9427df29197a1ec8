import Parlor.Proofs.Session.Lines
/-!
# Sessions with a line editor

A session that reads from a line editor is described without its loop. `readings` lists what its
reads come to: those of the editor up to its first failure, and those of the plain bytes from the
failed one on. The session answers them up to the first that quits (`play_edited`). So an
interruption adds its notice and nothing else, and what the editor would deliver behind a failure
does not matter.
-/

namespace Parlor.Session

def Outcome.line? : Outcome → Option String
  | .line text => some text
  | .endOfInput => some "quit"
  | .interrupted => none
  | .unreadable => none

def Outcome.ofSaid : Option String → Outcome
  | some text => .line text
  | none => .unreadable

structure Reading where
  prompted : Bool
  outcome : Outcome

def plainReadings (bytes : List UInt8) : List Reading :=
  (cutLines bytes).map (fun line => ⟨true, .ofSaid (said line)⟩) ++ [⟨true, .endOfInput⟩]

/-- The reads of a session. The one at which the editor fails is made from the plain bytes. -/
def readings (plain : List UInt8) : List Edited → List Reading
  | [] => [⟨false, .endOfInput⟩]
  | .line text :: edited => ⟨false, .line text⟩ :: readings plain edited
  | .endOfInput :: _ => [⟨false, .endOfInput⟩]
  | .interrupted :: edited => ⟨false, .interrupted⟩ :: readings plain edited
  | .failure :: _ => plainReadings plain

def takenReadings : List Reading → List Reading
  | [] => []
  | reading :: later =>
    reading :: if Quits reading.outcome.line? then [] else takenReadings later

def answeredLines (readings : List Reading) : List String :=
  readings.filterMap fun reading => reading.outcome.line?

def printedFor (console : Console) (help : List HelpEntry) (world : World) :
    List Reading → List Exchange
  | [] => []
  | reading :: later =>
    match reading.outcome with
    | .line text =>
      let turn := world.answer help text
      ⟨reading.prompted, console.reply turn.reply⟩ :: printedFor console help turn.world later
    | .endOfInput =>
      let turn := world.answer help "quit"
      ⟨reading.prompted, console.reply turn.reply⟩ :: printedFor console help turn.world later
    | .interrupted =>
      ⟨reading.prompted, "Command canceled.\n"⟩ :: printedFor console help world later
    | .unreadable => ⟨reading.prompted, console.unreadable⟩ :: printedFor console help world later

variable {console : Console} {help : List HelpEntry}

theorem play_of_goesOn {world : World} {input : Input}
    (goesOn : (respond console help world input.read.outcome).goesOn = true) :
    play console help world input =
      let response := respond console help world input.read.outcome
      let (later, last) := play console help response.world input.read.next
      (⟨input.read.prompted, response.printed⟩ :: later, last) := by
  rw [play]
  exact dif_pos goesOn

theorem play_of_not_goesOn {world : World} {input : Input}
    (stops : (respond console help world input.read.outcome).goesOn = false) :
    play console help world input =
      let response := respond console help world input.read.outcome
      ([⟨input.read.prompted, response.printed⟩], response.world) := by
  rw [play]
  exact dif_neg (by simp [stops])

def Plays (console : Console) (help : List HelpEntry) (input : Input) (readings : List Reading) :
    Prop :=
  ∀ world, play console help world input =
    (printedFor console help world (takenReadings readings),
      world.after help (answeredLines (takenReadings readings)))

theorem Plays.endOfInput {input next : Input} {prompted : Bool} {later : List Reading}
    (reads : input.read = ⟨.endOfInput, prompted, next⟩) :
    Plays console help input (⟨prompted, .endOfInput⟩ :: later) := by
  intro world
  have quits : Quits (some "quit") = true := by decide
  rw [play_of_not_goesOn (by rw [reads]; rfl), reads]
  simp only [takenReadings, Outcome.line?, quits, if_true]
  rfl

theorem Plays.cons {input next : Input} {outcome : Outcome} {prompted : Bool}
    {later : List Reading} (reads : input.read = ⟨outcome, prompted, next⟩)
    (plays : Plays console help next later) :
    Plays console help input (⟨prompted, outcome⟩ :: later) := by
  cases outcome with
  | line text =>
    intro world
    by_cases quits : Command.parse text = .quit
    · rw [play_of_not_goesOn (by simp [reads, respond, quits]), reads]
      simp only [takenReadings, Outcome.line?, Quits, quits, decide_true, if_true]
      rfl
    · have behind := plays (world.answer help text).world
      rw [play_of_goesOn (by simp [reads, respond, quits]), reads]
      simp only [takenReadings, Outcome.line?, Quits, quits, decide_false, Bool.false_eq_true,
        if_false, respond, behind]
      rfl
  | endOfInput => exact .endOfInput reads
  | interrupted =>
    intro world
    have behind := plays world
    rw [play_of_goesOn (by rw [reads]; rfl), reads]
    simp only [respond, behind]
    rfl
  | unreadable =>
    intro world
    have behind := plays world
    rw [play_of_goesOn (by rw [reads]; rfl), reads]
    simp only [respond, behind]
    rfl

theorem plays_plainReadings (bytes : List UInt8) :
    Plays console help (.ofBytes bytes) (plainReadings bytes) := by
  by_cases ended : bytes = []
  · subst ended
    exact .endOfInput rfl
  · have reads := read_ofBytes ended
    rw [lineOutcome_eq _ (lineFeed_not_mem_takeLine bytes)] at reads
    rw [plainReadings, cutLines_eq_cons ended]
    exact .cons reads (plays_plainReadings (takeLine bytes).2.2)
termination_by bytes.length
decreasing_by exact length_takeLine_lt ended

theorem play_congr {input other : Input} (same : input.read = other.read) (world : World) :
    play console help world input = play console help world other := by
  cases goesOn : (respond console help world other.read.outcome).goesOn with
  | true => rw [play_of_goesOn (same ▸ goesOn), play_of_goesOn goesOn, same]
  | false => rw [play_of_not_goesOn (same ▸ goesOn), play_of_not_goesOn goesOn, same]

theorem play_failure (world : World) (after : List Edited) (plain : List UInt8) :
    play console help world ⟨some (.failure :: after), plain⟩ =
      play console help world (.ofBytes plain) := by
  have same : Input.read ⟨some (.failure :: after), plain⟩ = (Input.ofBytes plain).read := rfl
  exact play_congr same world

theorem plays_readings (plain : List UInt8) (edited : List Edited) :
    Plays console help ⟨some edited, plain⟩ (readings plain edited) := by
  induction edited with
  | nil => exact .endOfInput rfl
  | cons first edited ih =>
    cases first with
    | line text => exact .cons rfl ih
    | endOfInput => exact .endOfInput rfl
    | interrupted => exact .cons rfl ih
    | failure =>
      -- The failed read is no reading of its own: it is made again from the bytes.
      intro world
      rw [play_failure]
      exact plays_plainReadings plain world

theorem readings_failure (plain : List UInt8) (before after others : List Edited) :
    readings plain (before ++ .failure :: after) = readings plain (before ++ .failure :: others) := by
  induction before with
  | nil => rfl
  | cons first before ih =>
    cases first with
    | line text => exact congrArg (List.cons _) ih
    | interrupted => exact congrArg (List.cons _) ih
    | endOfInput => rfl
    | failure => rfl

def Edited.goesOn : Edited → Bool
  | .line text => Command.parse text ≠ .quit
  | .interrupted => true
  | .endOfInput => false
  | .failure => false

theorem exists_play_cons (console : Console) (help : List HelpEntry) (world : World)
    {first : Edited} (goesOn : first.goesOn = true) :
    ∃ exchange next, ∀ edited plain, play console help world ⟨some (first :: edited), plain⟩ =
      (exchange :: (play console help next ⟨some edited, plain⟩).1,
        (play console help next ⟨some edited, plain⟩).2) := by
  cases first with
  | line text =>
    let turn := world.answer help text
    refine ⟨⟨false, console.reply turn.reply⟩, turn.world, fun edited plain => ?_⟩
    exact play_of_goesOn goesOn
  | interrupted =>
    refine ⟨⟨false, Console.canceled⟩, world, fun edited plain => ?_⟩
    exact play_of_goesOn rfl
  | endOfInput => cases goesOn
  | failure => cases goesOn

theorem play_interrupted (plain : List UInt8) {before : List Edited}
    (goesOn : ∀ read ∈ before, read.goesOn = true) (after : List Edited) (world : World) :
    play console help world ⟨some (before ++ .interrupted :: after), plain⟩ =
      ((play console help world ⟨some (before ++ after), plain⟩).1.insertIdx before.length
          ⟨false, "Command canceled.\n"⟩,
        (play console help world ⟨some (before ++ after), plain⟩).2) := by
  induction before generalizing world with
  | nil => exact play_of_goesOn rfl
  | cons first before ih =>
    obtain ⟨here, later⟩ := List.forall_mem_cons.1 goesOn
    obtain ⟨exchange, next, plays⟩ := exists_play_cons console help world here
    rw [List.cons_append, List.cons_append, plays, plays, ih later, List.length_cons,
      List.insertIdx_succ_cons]

/-- A session answers the lines that it reads up to the first that quits, in order, whether the
editor or plain bytes gave them. An interruption prints its notice and changes nothing. A failing
editor hands the same read over to the plain bytes and is not asked again. -/
theorem play_edited (console : Console) (help : List HelpEntry) (world : World)
    (plain : List UInt8) :
    (∀ edited, play console help world ⟨some edited, plain⟩ =
      (printedFor console help world (takenReadings (readings plain edited)),
        world.after help (answeredLines (takenReadings (readings plain edited))))) ∧
    (∀ before after, (∀ read ∈ before, read.goesOn = true) →
      play console help world ⟨some (before ++ .interrupted :: after), plain⟩ =
        ((play console help world ⟨some (before ++ after), plain⟩).1.insertIdx before.length
            ⟨false, "Command canceled.\n"⟩,
          (play console help world ⟨some (before ++ after), plain⟩).2)) ∧
    (∀ after, play console help world ⟨some (.failure :: after), plain⟩ =
      play console help world (.ofBytes plain)) ∧
    ∀ before after others,
      play console help world ⟨some (before ++ .failure :: after), plain⟩ =
        play console help world ⟨some (before ++ .failure :: others), plain⟩ := by
  refine ⟨?_, ?_, ?_, ?_⟩
  · intro edited
    exact plays_readings plain edited world
  · intro before after goesOn
    exact play_interrupted plain goesOn after world
  · intro after
    exact play_failure world after plain
  · intro before after others
    rw [plays_readings plain _ world, plays_readings plain _ world, readings_failure]

def firstReads : List Edited := [.line "take torch", .interrupted]

theorem play_edited_canceled :
    (∀ read ∈ firstReads, read.goesOn = true) ∧
      let world := World.start [.new "cave" "A dark cave."] "cave"
      let plain := Text.encode "take rope\nquit\nlook\n"
      let whole := play ⟨false, 80⟩ [] world ⟨some (firstReads ++ [.line "look", .failure]), plain⟩
      play ⟨false, 80⟩ [] world
          ⟨some (firstReads ++ .interrupted :: [.line "look", .failure]), plain⟩ =
        (whole.1.insertIdx firstReads.length ⟨false, "Command canceled.\n"⟩, whole.2) := by
  have goesOn : ∀ read ∈ firstReads, read.goesOn = true := by decide
  exact ⟨goesOn, (play_edited _ _ _ _).2.1 firstReads _ goesOn⟩

end Parlor.Session
