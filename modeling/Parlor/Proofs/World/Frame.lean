import Parlor.Proofs.World.Outcomes

namespace Parlor.World

def flagOf? (world : World) (item : String) : Option String :=
  match world.effects.effectOf item with
  | .light => some (litFlag item)
  | .consume => some (consumedFlag item)
  | .none => none

/-- The next world differs from the one before in what the command may change, and nowhere else. -/
structure Confined (world : World) (command : Command) (next : World) : Prop where
  names : next.rooms.keys = world.rooms.keys
  rooms : ∀ id before after, world.rooms.get? id = some before → next.rooms.get? id = some after →
    after.id = before.id ∧ after.description = before.description ∧ after.exits = before.exits
  effects : next.effects = world.effects
  items : ∀ id before after, world.rooms.get? id = some before → next.rooms.get? id = some after →
    after.items ≠ before.items → id = world.location ∧ ∃ item, command = .take item
  location : next.location ≠ world.location → ∃ direction, command = .moveTo direction
  inventory : next.player.inventory ≠ world.player.inventory →
    ∃ item, command = .take item ∨ command = .useItem item
  flags : ∀ name, next.flags.get? name ≠ world.flags.get? name →
    ∃ item, command = .useItem item ∧ world.flagOf? item = some name ∧
      next.flags.get? name = some true

inductive Alters (world : World) : Command → Except Fault String → Prop
  | moved {direction target room text} (here : world.rooms.get? world.location = some room)
      (leads : room.exitTo? direction = some target) (away : target ≠ world.location) :
      Alters world (.moveTo direction) (.ok text)
  | took {item text} : Alters world (.take item) (.ok text)
  | lit {item text} (effect : world.effects.effectOf item = .light)
      (unlit : world.flag (litFlag item) = false) : Alters world (.useItem item) (.ok text)
  | consumed {item text} (effect : world.effects.effectOf item = .consume)
      (carried : item ∈ world.player.inventory) : Alters world (.useItem item) (.ok text)

variable {help : List HelpEntry} {world : World} {command : Command} {turn : Turn}

theorem Comes.names (comes : Comes help world command turn) :
    turn.world.rooms.keys = world.rooms.keys := by
  apply SortedMap.keys_eq_of_contains_eq
  intro id
  have same := comes.map_rooms (fun _ => ()) (fun _ _ => rfl) id
  simpa [SortedMap.contains] using congrArg Option.isSome same

theorem Comes.fixtures (comes : Comes help world command turn) {id : String} {before after : Room}
    (was : world.rooms.get? id = some before) (now : turn.world.rooms.get? id = some after) :
    after.id = before.id ∧ after.description = before.description ∧
      after.exits = before.exits := by
  have same := comes.map_rooms (fun room => (room.id, room.description, room.exits))
    (fun _ _ => rfl) id
  simpa [was, now] using same

theorem Comes.take_of_items_ne (comes : Comes help world command turn) {id : String}
    {before after : Room} (was : world.rooms.get? id = some before)
    (now : turn.world.rooms.get? id = some after) (changed : after.items ≠ before.items) :
    id = world.location ∧ ∃ item, command = .take item := by
  have unchanged (same : turn.world.rooms = world.rooms) : after.items = before.items := by
    rw [same, was] at now
    cases now
    rfl
  cases comes with
  | @took item room here =>
    refine ⟨?_, item, rfl⟩
    apply Decidable.byContradiction
    intro elsewhere
    rw [get?_rooms_taken, if_neg elsewhere, was] at now
    cases now
    exact changed rfl
  | _ => exact absurd (unchanged rfl) changed

theorem Comes.moveTo_of_location_ne (comes : Comes help world command turn)
    (changed : turn.world.location ≠ world.location) :
    ∃ direction, command = .moveTo direction := by
  cases comes with
  | @moved direction => exact ⟨direction, rfl⟩
  | _ => exact absurd rfl changed

theorem Comes.take_or_useItem_of_inventory_ne (comes : Comes help world command turn)
    (changed : turn.world.player.inventory ≠ world.player.inventory) :
    ∃ item, command = .take item ∨ command = .useItem item := by
  cases comes with
  | @took item => exact ⟨item, .inl rfl⟩
  | @consumed item => exact ⟨item, .inr rfl⟩
  | _ => exact absurd rfl changed

theorem Comes.useItem_of_flag_ne (comes : Comes help world command turn) {name : String}
    (changed : turn.world.flags.get? name ≠ world.flags.get? name) :
    ∃ item, command = .useItem item ∧ world.flagOf? item = some name ∧
      turn.world.flags.get? name = some true := by
  have only {flag : String}
      (different : (world.flags.insert flag true).get? name ≠ world.flags.get? name) :
      name = flag :=
    Decidable.byContradiction fun other => different (SortedMap.get?_insert_of_ne _ _ other)
  cases comes with
  | @lit item room effect unlit here =>
    obtain rfl := only changed
    refine ⟨item, rfl, ?_, SortedMap.get?_insert_self _ _ _⟩
    rw [flagOf?, effect]
  | @consumed item effect carried =>
    obtain rfl := only changed
    refine ⟨item, rfl, ?_, SortedMap.get?_insert_self _ _ _⟩
    rw [flagOf?, effect]
  | _ => exact absurd rfl changed

theorem Comes.confined (comes : Comes help world command turn) :
    Confined world command turn.world where
  names := comes.names
  rooms _ _ _ := comes.fixtures
  effects := comes.effects
  items _ _ _ := comes.take_of_items_ne
  location := comes.moveTo_of_location_ne
  inventory := comes.take_or_useItem_of_inventory_ne
  flags _ := comes.useItem_of_flag_ne

theorem Comes.alters (comes : Comes help world command turn) (changed : turn.world ≠ world) :
    Alters world command turn.reply := by
  cases comes with
  | @moved direction target room there here leads arrival =>
    refine .moved here leads ?_
    -- An exit back to its own room changes nothing.
    rintro rfl
    exact changed rfl
  | took here => exact .took
  | lit effect unlit here => exact .lit effect unlit
  | consumed effect carried => exact .consumed effect carried
  | _ => exact absurd rfl changed

theorem Comes.ne_of_alters {reply : Except Fault String} {next : World}
    (comes : Comes help world command ⟨reply, next⟩) (alters : Alters world command reply) :
    next ≠ world := by
  intro same
  cases alters with
  | moved here leads away =>
    cases comes with
    | moved also leadsAlso arrival =>
      rw [here] at also
      cases also
      rw [leads] at leadsAlso
      cases leadsAlso
      exact away (congrArg World.location same)
  | took =>
    cases comes with
    | took here =>
      have more := congrArg (fun world => world.player.inventory.length) same
      simp [taken] at more
  | @lit item text effect unlit =>
    cases comes with
    | lit =>
      have lit : (world.setFlag (litFlag item) true).flag (litFlag item) = true := by
        simp [flag, setFlag]
      rw [same, unlit] at lit
      cases lit
    | alreadyLit _ lit => simp [lit] at unlit
    | consumed other | notCarried other | useless other => simp [effect] at other
  | consumed effect carried =>
    cases comes with
    | consumed =>
      have fewer := congrArg (fun world => world.player.inventory.length) same
      have held := List.length_pos_of_mem carried
      simp only [World.consumed, List.length_erase_of_mem carried] at fewer
      omega
    | notCarried _ missing => exact absurd carried missing
    | lit other | alreadyLit other | useless other => simp [effect] at other

/-- A command changes only what it may change, and changes something just when it moves the player
to another room, takes an item, lights one or uses one up. -/
theorem confined_perform (help : List HelpEntry) (world : World) (command : Command) :
    let turn := world.perform help command
    Confined world command turn.world ∧
      (turn.world ≠ world ↔ Alters world command turn.reply) := by
  have comes := comes_perform help world command
  exact ⟨comes.confined, comes.alters, comes.ne_of_alters⟩

end Parlor.World
