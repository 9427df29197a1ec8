import Parlor.Proofs.World.History
import Mathlib.Data.List.Basic

namespace Parlor.World

namespace Event

def taken? (event : Event) : Option String :=
  match event.command with
  | .take item => some item
  | _ => none

def consumed? (event : Event) : Option String :=
  match event.command with
  | .useItem item =>
    if event.turn.reply = .ok ("You consume the " ++ item ++ ".") then some item else none
  | _ => none

def pickedUp? (id : String) (event : Event) : Option String :=
  event.taken?.filter fun item =>
    event.before.location = id && (event.before.rooms.get? id).any (item ∈ ·.items)

/-- What is carried after an event: an item taken comes last, and the earliest copy of one that is
used up goes. -/
def carry (carried : List String) (event : Event) : List String :=
  match event.taken?, event.consumed? with
  | some item, _ => carried ++ [item]
  | none, some item => carried.erase item
  | none, none => carried

end Event

def itemsTaken (past : List Event) : List String := past.filterMap Event.taken?

def itemsConsumed (past : List Event) : List String := past.filterMap Event.consumed?

def itemsPickedUp (id : String) (past : List Event) : List String :=
  past.filterMap (Event.pickedUp? id)

inductive Handles (event : Event) : Prop
  | took {item room} (here : event.before.rooms.get? event.before.location = some room)
      (taken : event.taken? = some item) (consumed : event.consumed? = none)
      (result : event.turn.world = event.before.taken room item)
  | consumed {item} (carried : item ∈ event.before.player.inventory) (taken : event.taken? = none)
      (consumed : event.consumed? = some item)
      (result : event.turn.world = event.before.consumed item)
  | nothing (taken : event.taken? = none) (consumed : event.consumed? = none)
      (inventory : event.turn.world.player.inventory = event.before.player.inventory)
      (rooms : event.turn.world.rooms = event.before.rooms)

theorem consumed?_eq_none {event : Event} {item : String} (used : event.command = .useItem item)
    (other : event.turn.reply ≠ .ok ("You consume the " ++ item ++ ".")) :
    event.consumed? = none := by
  rw [Event.consumed?, used]
  exact if_neg other

theorem Comes.handles {help : List HelpEntry} {world : World} {command : Command} {turn : Turn}
    (comes : Comes help world command turn)
    (located : ∃ room, world.rooms.get? world.location = some room) :
    Handles ⟨world, command, turn⟩ := by
  obtain ⟨standing, located⟩ := located
  cases comes with
  | took here => exact .took here rfl rfl rfl
  | consumed effect carried => exact .consumed carried rfl (if_pos rfl) rfl
  | lit | alreadyLit | notCarried | useless =>
    -- The texts of these replies differ from the one for an item that is used up.
    refine .nothing rfl (consumed?_eq_none rfl ?_) rfl rfl
    intro same
    simpa using congrArg String.toList (Except.ok.inj same)
  | nowhere needs missing =>
    rw [missing] at located
    cases located
  | _ => exact .nothing rfl rfl rfl rfl

theorem pickedUp?_of_not_taken {event : Event} (taken : event.taken? = none) (id : String) :
    event.pickedUp? id = none := by
  rw [Event.pickedUp?, taken]
  rfl

theorem mem_of_pickedUp? {event : Event} {id item : String} {room : Room}
    (picked : event.pickedUp? id = some item) (there : event.before.rooms.get? id = some room) :
    item ∈ room.items := by
  have held := (Option.filter_eq_some_iff.1 picked).2
  simp only [there, Option.any_some, Bool.and_eq_true, decide_eq_true_eq] at held
  exact held.2

theorem count_erase_add {items : List String} {item : String} (member : item ∈ items)
    (other : String) :
    (items.erase item).count other + [item].count other = items.count other := by
  have whole : (items.erase item ++ [item]).Perm items :=
    (List.perm_append_singleton item _).trans (List.perm_cons_erase member).symm
  rw [← List.count_append, whole.count_eq other]

theorem Handles.items {event : Event} (handles : Handles event) (id : String) :
    (event.turn.world.rooms.get? id).map Room.items =
      (event.before.rooms.get? id).map fun room => room.items.diff (event.pickedUp? id).toList := by
  cases handles with
  | took here taken consumed result =>
    rename_i item room
    rw [result, Event.pickedUp?, taken, get?_rooms_taken]
    split
    · rename_i same
      subst same
      by_cases there : item ∈ room.items
      · simp [here, there, Option.filter_some, List.diff_cons]
      · simp [here, there, Option.filter_some]
    · rename_i differs
      simp [Ne.symm differs, Option.filter_some]
  | consumed carried taken consumed result =>
    rw [result, pickedUp?_of_not_taken taken]
    rfl
  | nothing taken consumed inventory rooms =>
    rw [rooms, pickedUp?_of_not_taken taken]
    rfl

theorem Handles.carry {event : Event} (handles : Handles event) :
    event.turn.world.player.inventory = event.carry event.before.player.inventory := by
  cases handles with
  | took here taken consumed result =>
    rw [result, Event.carry, taken]
    rfl
  | consumed carried taken consumed result =>
    rw [result, Event.carry, taken, consumed]
    rfl
  | nothing taken consumed inventory rooms => rw [inventory, Event.carry, taken, consumed]

theorem Handles.count {event : Event} (handles : Handles event) (item : String) :
    event.turn.world.player.inventory.count item + event.consumed?.toList.count item =
      event.before.player.inventory.count item + event.taken?.toList.count item := by
  cases handles with
  | took here taken consumed result =>
    rw [result, taken, consumed]
    exact List.count_append
  | consumed carried taken consumed result =>
    rw [result, taken, consumed]
    exact count_erase_add carried item
  | nothing taken consumed inventory rooms => rw [inventory, taken, consumed]

theorem Handles.sublist {event : Event} (handles : Handles event) :
    event.turn.world.player.inventory.Sublist
      (event.before.player.inventory ++ event.taken?.toList) := by
  cases handles with
  | took here taken consumed result =>
    rw [result, taken]
    exact List.Sublist.refl _
  | consumed carried taken consumed result =>
    rw [result, taken, Option.toList_none, List.append_nil]
    exact List.erase_sublist
  | nothing taken consumed inventory rooms => simp [inventory, taken]

/-- Where the items are after some events: the account is of these events alone. -/
structure Accounted (origin : World) (past : List Event) (present : World) : Prop where
  count : ∀ item, present.player.inventory.count item + (itemsConsumed past).count item =
    (itemsTaken past).count item
  carried : present.player.inventory = past.foldl Event.carry []
  inOrder : present.player.inventory.Sublist (itemsTaken past)
  left : ∀ id, (present.rooms.get? id).map Room.items =
    (origin.rooms.get? id).map fun room => room.items.diff (itemsPickedUp id past)
  subsequence : ∀ id room remains, origin.rooms.get? id = some room →
    present.rooms.get? id = some remains → remains.items.Sublist room.items
  found : ∀ id room, origin.rooms.get? id = some room → ∀ item,
    (room.items.diff (itemsPickedUp id past)).count item + (itemsPickedUp id past).count item =
      room.items.count item

theorem accounted_nil {world : World} (empty : world.player.inventory = []) :
    Accounted world [] world := by
  refine ⟨?_, empty, ?_, ?_, ?_, ?_⟩
  · intro item
    rw [empty]
    rfl
  · rw [empty]
    exact List.nil_sublist _
  · intro id
    rfl
  · intro id room remains there still
    rw [there] at still
    cases still
    exact List.Sublist.refl _
  · intro id room there item
    rfl

theorem filterMap_snoc {α : Type} (f : Event → Option α) (past : List Event) (event : Event) :
    (past ++ [event]).filterMap f = past.filterMap f ++ (f event).toList := by
  rw [List.filterMap_append]
  cases found : f event <;> simp [found]

theorem Accounted.snoc {origin : World} {past : List Event} {event : Event}
    (account : Accounted origin past event.before) (handles : Handles event) :
    Accounted origin (past ++ [event]) event.turn.world := by
  refine ⟨?_, ?_, ?_, ?_, ?_, ?_⟩
  · intro item
    have before := account.count item
    have after := handles.count item
    rw [itemsTaken, itemsConsumed, filterMap_snoc, filterMap_snoc, List.count_append,
      List.count_append, ← itemsTaken, ← itemsConsumed]
    omega
  · rw [List.foldl_append, ← account.carried]
    exact handles.carry
  · rw [itemsTaken, filterMap_snoc]
    exact handles.sublist.trans (account.inOrder.append_right _)
  · intro id
    have before := congrArg (Option.map (·.diff (event.pickedUp? id).toList)) (account.left id)
    rw [Option.map_map, Option.map_map] at before
    rw [itemsPickedUp, filterMap_snoc, ← itemsPickedUp, handles.items]
    simpa only [List.diff_append, Function.comp_def] using before
  · intro id room remains there still
    have lying := account.left id
    have lessened := handles.items id
    rw [there, Option.map_some, Option.map_eq_some_iff] at lying
    obtain ⟨earlier, found, lying⟩ := lying
    rw [still, found, Option.map_some, Option.map_some, Option.some.injEq] at lessened
    rw [lessened]
    exact (List.diff_sublist _ _).trans (account.subsequence id room earlier there found)
  · intro id room there item
    have before := account.found id room there item
    rw [itemsPickedUp, filterMap_snoc, ← itemsPickedUp, List.diff_append, List.count_append]
    cases picked : event.pickedUp? id with
    | none => simpa using before
    | some last =>
      -- What is picked up now is among what had been left.
      have lying := account.left id
      rw [there, Option.map_some, Option.map_eq_some_iff] at lying
      obtain ⟨left, there, lying⟩ := lying
      have erased := count_erase_add (mem_of_pickedUp? picked there) item
      rw [lying] at erased
      rw [Option.toList_some, List.diff_cons, List.diff_nil]
      omega

theorem Begins.inventory {world : World} (begins : Begins world) : world.player.inventory = [] := by
  obtain ⟨game, accepted⟩ := begins.exists_build
  obtain ⟨-, rfl⟩ := GameDefinition.build_eq_ok_iff.1 accepted
  rfl

theorem accounted_after {world : World} (begins : Begins world) (help : List HelpEntry)
    (lines : List String) :
    Accounted world (history help world lines) (world.after help lines) := by
  apply history_induction begins.footing (Accounted world)
  · exact accounted_nil begins.inventory
  · intro past event footing comes account
    exact account.snoc (comes.handles footing.located)

theorem accounted_after_feast :
    Begins feastGame.world ∧
      Accounted feastGame.world
        (history HelpEntry.builtIn feastGame.world
          ["take bread", "go down", "take bread", "use bread", "take salt"])
        (feastGame.world.after HelpEntry.builtIn
          ["take bread", "go down", "take bread", "use bread", "take salt"]) :=
  ⟨begins_feastGame, accounted_after begins_feastGame _ _⟩

example : (feastGame.world.after HelpEntry.builtIn
    ["take bread", "go down", "take bread", "use bread", "take salt"]).player.inventory =
      ["bread", "salt"] := by decide +kernel

end Parlor.World
