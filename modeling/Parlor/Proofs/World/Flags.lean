import Parlor.Proofs.World.History

namespace Parlor.World

theorem litFlag_inj {item other : String} : litFlag item = litFlag other ↔ item = other :=
  String.append_left_inj _

theorem consumedFlag_inj {item other : String} :
    consumedFlag item = consumedFlag other ↔ item = other :=
  String.append_left_inj _

theorem litFlag_ne_consumedFlag (item other : String) : litFlag item ≠ consumedFlag other := by
  intro same
  simpa [litFlag, consumedFlag] using congrArg (fun name => name.toList.getLast?) same

theorem flag_eq_true_iff {world : World} {name : String} :
    world.flag name = true ↔ world.flags.get? name = some true := by
  rw [flag]
  cases world.flags.get? name <;> simp

theorem flag_insert_of_ne {name flag : String} (differ : name ≠ flag) (world : World)
    (value : Bool) :
    ({ world with flags := world.flags.insert flag value } : World).flag name =
      world.flag name := by
  rw [World.flag, World.flag, SortedMap.get?_insert_of_ne _ _ differ]

inductive Event.Sets (effects : Effects) (event : Event) : String → Prop
  | lit {item} (used : event.command = .useItem item) (effect : effects.effectOf item = .light) :
      Sets effects event (litFlag item)
  | consumed {item} (used : event.command = .useItem item)
      (effect : effects.effectOf item = .consume)
      (carried : item ∈ event.before.player.inventory) : Sets effects event (consumedFlag item)

def Event.Lights (item : String) (event : Event) : Prop :=
  event.command = .useItem item ∧
    ∃ more, event.turn.reply = .ok ("You light the " ++ item ++ "." ++ more)

section Steps

variable {help : List HelpEntry} {world : World} {command : Command} {turn : Turn}

theorem Comes.flags_of_sets (comes : Comes help world command turn)
    (located : ∃ room, world.rooms.get? world.location = some room) {name : String}
    (sets : Event.Sets world.effects ⟨world, command, turn⟩ name) :
    turn.world.flags.get? name = some true := by
  obtain ⟨standing, located⟩ := located
  cases sets with
  | lit used effect =>
    cases used
    cases comes with
    | lit => exact SortedMap.get?_insert_self _ _ _
    | alreadyLit _ lit => exact flag_eq_true_iff.1 lit
    | nowhere needs missing => simp [located] at missing
    | consumed other | notCarried other | useless other => simp [effect] at other
  | consumed used effect carried =>
    cases used
    cases comes with
    | consumed => exact SortedMap.get?_insert_self _ _ _
    | notCarried _ missing => exact absurd carried missing
    | nowhere needs missing => simp [located] at missing
    | lit other | alreadyLit other | useless other => simp [effect] at other

theorem Comes.flags_of_not_sets (comes : Comes help world command turn) {name : String}
    (other : ¬ Event.Sets world.effects ⟨world, command, turn⟩ name) :
    turn.world.flags.get? name = world.flags.get? name := by
  cases comes with
  | lit effect unlit here =>
    apply SortedMap.get?_insert_of_ne
    rintro rfl
    exact other (.lit rfl effect)
  | consumed effect carried =>
    apply SortedMap.get?_insert_of_ne
    rintro rfl
    exact other (.consumed rfl effect carried)
  | _ => rfl

theorem Comes.lights_iff {event : Event} {item : String}
    (comes : Comes help event.before event.command event.turn)
    (located : ∃ room, event.before.rooms.get? event.before.location = some room)
    (used : event.command = .useItem item) :
    event.Lights item ↔
      event.before.effects.effectOf item = .light ∧ event.before.flag (litFlag item) = false := by
  obtain ⟨world, command, turn⟩ := event
  obtain ⟨standing, located⟩ := located
  dsimp only at comes located used ⊢
  subst used
  cases comes with
  | lit effect unlit here =>
    rename_i room
    refine ⟨fun _ => ⟨effect, unlit⟩, fun _ => ⟨rfl, " The " ++ world.location ++
      " is now illuminated!\n" ++ room.describe, ?_⟩⟩
    simp [← String.toList_inj]
  | alreadyLit effect lit =>
    constructor
    · rintro ⟨-, more, same⟩
      simpa using congrArg String.toList (Except.ok.inj same)
    · rintro ⟨-, unlit⟩
      simp [lit] at unlit
  | consumed other | notCarried other | useless other =>
    constructor
    · rintro ⟨-, more, same⟩
      simpa using congrArg String.toList (Except.ok.inj same)
    · rintro ⟨effect, -⟩
      simp [effect] at other
  | nowhere needs missing => simp [located] at missing

theorem Comes.eq_of_lit {item : String} (comes : Comes help world (.useItem item) turn)
    (effect : world.effects.effectOf item = .light) (lit : world.flag (litFlag item) = true) :
    turn = ⟨.ok ("The " ++ item ++ " is already lit."), world⟩ := by
  cases comes with
  | alreadyLit => rfl
  | nowhere needs => simp [needs.2] at lit
  | lit _ unlit => simp [unlit] at lit
  | consumed other | notCarried other | useless other => simp [effect] at other

end Steps

def WasLit (effects : Effects) (past : List Event) (item : String) : Prop :=
  effects.effectOf item = .light ∧ ∃ event ∈ past, event.command = .useItem item

def WasConsumed (effects : Effects) (past : List Event) (item : String) : Prop :=
  effects.effectOf item = .consume ∧
    ∃ event ∈ past, event.command = .useItem item ∧ item ∈ event.before.player.inventory

/-- The flags are those that some event has set, and an item is lit by no event behind another that
uses it. -/
structure Noted (origin : World) (past : List Event) (present : World) : Prop where
  effects : present.effects = origin.effects
  flags : ∀ name value, present.flags.get? name = some value ↔
    value = true ∧ ∃ event ∈ past, event.Sets origin.effects name
  once : past.Pairwise fun earlier later =>
    ∀ item, earlier.command = .useItem item → ¬ later.Lights item

variable {origin present : World} {past : List Event}

theorem exists_sets_iff {effects : Effects} {name : String} :
    (∃ event ∈ past, event.Sets effects name) ↔
      (∃ item, name = litFlag item ∧ WasLit effects past item) ∨
        ∃ item, name = consumedFlag item ∧ WasConsumed effects past item := by
  constructor
  · rintro ⟨event, member, sets⟩
    cases sets with
    | lit used effect => exact .inl ⟨_, rfl, effect, event, member, used⟩
    | consumed used effect carried =>
      exact .inr ⟨_, rfl, effect, event, member, used, carried⟩
  · rintro (⟨item, rfl, effect, event, member, used⟩ |
      ⟨item, rfl, effect, event, member, used, carried⟩)
    · exact ⟨event, member, .lit used effect⟩
    · exact ⟨event, member, .consumed used effect carried⟩

theorem Noted.get?_eq_true_iff (noted : Noted origin past present) {name : String} :
    present.flags.get? name = some true ↔
      (∃ item, name = litFlag item ∧ WasLit origin.effects past item) ∨
        ∃ item, name = consumedFlag item ∧ WasConsumed origin.effects past item := by
  rw [noted.flags, ← exists_sets_iff]
  simp

theorem Noted.litFlag_iff (noted : Noted origin past present) {item : String} :
    present.flags.get? (litFlag item) = some true ↔ WasLit origin.effects past item := by
  rw [noted.get?_eq_true_iff]
  constructor
  · rintro (⟨other, same, lit⟩ | ⟨other, same, -⟩)
    · exact litFlag_inj.1 same ▸ lit
    · exact absurd same (litFlag_ne_consumedFlag item other)
  · intro lit
    exact .inl ⟨item, rfl, lit⟩

theorem Noted.consumedFlag_iff (noted : Noted origin past present) {item : String} :
    present.flags.get? (consumedFlag item) = some true ↔
      WasConsumed origin.effects past item := by
  rw [noted.get?_eq_true_iff]
  constructor
  · rintro (⟨other, same, -⟩ | ⟨other, same, consumed⟩)
    · exact absurd same.symm (litFlag_ne_consumedFlag other item)
    · exact consumedFlag_inj.1 same ▸ consumed
  · intro consumed
    exact .inr ⟨item, rfl, consumed⟩

theorem Begins.flags {world : World} (begins : Begins world) (name : String) :
    world.flags.get? name = none := by
  obtain ⟨game, accepted⟩ := begins.exists_build
  obtain ⟨-, rfl⟩ := GameDefinition.build_eq_ok_iff.1 accepted
  rfl

theorem noted_nil {world : World} (empty : ∀ name, world.flags.get? name = none) :
    Noted world [] world := by
  refine ⟨rfl, ?_, .nil⟩
  intro name value
  simp [empty]

theorem Noted.snoc {help : List HelpEntry} {event : Event} (noted : Noted origin past event.before)
    (footing : event.before.Footing)
    (comes : Comes help event.before event.command event.turn) :
    Noted origin (past ++ [event]) event.turn.world := by
  refine ⟨comes.effects.trans noted.effects, ?_, ?_⟩
  · intro name value
    simp only [List.mem_append, List.mem_singleton, or_and_right, exists_or, exists_eq_left]
    by_cases sets : event.Sets origin.effects name
    · rw [← noted.effects] at sets
      rw [comes.flags_of_sets footing.located sets]
      rw [noted.effects] at sets
      simp [sets, eq_comm]
    · have other := sets
      rw [← noted.effects] at sets
      rw [comes.flags_of_not_sets sets, noted.flags]
      simp [other]
  · rw [List.pairwise_append]
    refine ⟨noted.once, List.pairwise_singleton _ _, ?_⟩
    intro earlier member later last item used lights
    -- The flag that the earlier use has set would still be missing.
    obtain rfl := List.mem_singleton.1 last
    obtain ⟨effect, unlit⟩ := (comes.lights_iff footing.located lights.1).1 lights
    rw [noted.effects] at effect
    have lit := noted.litFlag_iff.2 ⟨effect, earlier, member, used⟩
    rw [← flag_eq_true_iff, unlit] at lit
    cases lit

theorem Noted.lights_iff {help : List HelpEntry} {item : String} (event : Event)
    (noted : Noted origin past event.before) (footing : event.before.Footing)
    (comes : Comes help event.before event.command event.turn)
    (used : event.command = .useItem item) :
    event.Lights item ↔ origin.effects.effectOf item = .light ∧
      ∀ other ∈ past, other.command ≠ .useItem item := by
  rw [comes.lights_iff footing.located used, noted.effects]
  refine and_congr_right fun effect => ?_
  rw [← Bool.not_eq_true, flag_eq_true_iff, noted.litFlag_iff, WasLit, and_iff_right effect]
  push Not
  rfl

theorem Noted.eq_of_wasLit {help : List HelpEntry} {item : String} {turn : Turn}
    (noted : Noted origin past present) (comes : Comes help present (.useItem item) turn)
    (lit : WasLit origin.effects past item) :
    turn = ⟨.ok ("The " ++ item ++ " is already lit."), present⟩ := by
  have effect := lit.1
  rw [← noted.effects] at effect
  exact comes.eq_of_lit effect (flag_eq_true_iff.2 (noted.litFlag_iff.2 lit))

theorem noted_after {world : World} (begins : Begins world) (help : List HelpEntry)
    (lines : List String) :
    Noted world (history help world lines) (world.after help lines) := by
  apply history_induction begins.footing (Noted world)
  · exact noted_nil begins.flags
  · intro past event footing comes noted
    exact noted.snoc footing comes

/-- What the flags tell about the events of a run, and what a further line is told that uses an
item. -/
structure Recorded (help : List HelpEntry) (origin : World) (past : List Event)
    (present : World) : Prop where
  set : ∀ name, present.flags.get? name ≠ some false
  flags : ∀ name, present.flags.get? name = some true ↔
    (∃ item, name = litFlag item ∧ WasLit origin.effects past item) ∨
      ∃ item, name = consumedFlag item ∧ WasConsumed origin.effects past item
  lit : ∀ item, present.flags.get? (litFlag item) = some true ↔ WasLit origin.effects past item
  consumed : ∀ item, present.flags.get? (consumedFlag item) = some true ↔
    WasConsumed origin.effects past item
  once : past.Pairwise fun earlier later =>
    ∀ item, earlier.command = .useItem item → ¬ later.Lights item
  first : ∀ line item, Command.parse line = .useItem item →
    ((∃ more, (present.answer help line).reply = .ok ("You light the " ++ item ++ "." ++ more)) ↔
      origin.effects.effectOf item = .light ∧ ∀ event ∈ past, event.command ≠ .useItem item)
  later : ∀ line item, Command.parse line = .useItem item → WasLit origin.effects past item →
    present.answer help line = ⟨.ok ("The " ++ item ++ " is already lit."), present⟩

theorem recorded_after {world : World} (begins : Begins world) (help : List HelpEntry)
    (lines : List String) :
    Recorded help world (history help world lines) (world.after help lines) := by
  have noted := noted_after begins help lines
  refine ⟨?_, fun _ => noted.get?_eq_true_iff, fun _ => noted.litFlag_iff,
    fun _ => noted.consumedFlag_iff, noted.once, ?_, ?_⟩
  · intro name unset
    cases ((noted.flags name false).1 unset).1
  · intro line item used
    let event : Event :=
      ⟨world.after help lines, .parse line, (world.after help lines).answer help line⟩
    have lights := noted.lights_iff event (begins.footing.after help lines)
      (comes_perform help _ (.parse line)) used
    exact (and_iff_right used).symm.trans lights
  · intro line item used lit
    have comes := comes_perform help (world.after help lines) (.parse line)
    rw [answer]
    rw [used] at comes ⊢
    exact noted.eq_of_wasLit comes lit

theorem recorded_after_feast :
    Begins feastGame.world ∧
      Recorded HelpEntry.builtIn feastGame.world
        (history HelpEntry.builtIn feastGame.world
          ["use torch_lit", "use bread", "take bread", "use bread", "use torch"])
        (feastGame.world.after HelpEntry.builtIn
          ["use torch_lit", "use bread", "take bread", "use bread", "use torch"]) :=
  ⟨begins_feastGame, recorded_after begins_feastGame _ _⟩

example : (feastGame.world.after HelpEntry.builtIn
    ["use torch_lit", "use bread", "take bread", "use bread", "use torch"]).flags =
      .ofList [("bread_consumed", true), ("torch_lit", true), ("torch_lit_lit", true)] := by
  decide +kernel

end Parlor.World
