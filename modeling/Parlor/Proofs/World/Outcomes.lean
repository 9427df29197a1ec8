import Parlor.Turn
/-!
# What can come of a command

`Comes` lists everything that a command can come to, with the condition under which it does.
`comes_perform` says that nothing else happens; what holds of all outcomes is proved by cases on
them, and `after_induction` carries it over to runs.
-/

namespace Parlor.World

/-! ## Outcomes -/

def NeedsRoom (world : World) : Command → Prop
  | .look => True
  | .moveTo _ => True
  | .take _ => True
  | .useItem item => world.effects.effectOf item = .light ∧ world.flag (litFlag item) = false
  | _ => False

def taken (world : World) (room : Room) (item : String) : World :=
  { world with
    rooms := world.rooms.insert world.location { room with items := room.items.erase item }
    player := { world.player with inventory := world.player.inventory ++ [item] } }

def consumed (world : World) (item : String) : World :=
  { world with
    player := { world.player with inventory := world.player.inventory.erase item }
    flags := world.flags.insert (consumedFlag item) true }

inductive Comes (help : List HelpEntry) (world : World) : Command → Turn → Prop
  | inventory : Comes help world .inventory ⟨.ok world.player.inventoryText, world⟩
  | help : Comes help world .help ⟨.ok (HelpEntry.listText help), world⟩
  | quit : Comes help world .quit ⟨.ok "Goodbye!", world⟩
  | unknown : Comes help world .unknown ⟨.ok "I don't understand that command.", world⟩
  | nowhere {command} (needs : world.NeedsRoom command)
      (missing : world.rooms.get? world.location = none) :
      Comes help world command ⟨.error (.roomNotFound world.location), world⟩
  | looked {room} (here : world.rooms.get? world.location = some room) :
      Comes help world .look ⟨.ok room.describe, world⟩
  | moved {direction target room there} (here : world.rooms.get? world.location = some room)
      (leads : room.exitTo? direction = some target)
      (arrival : world.rooms.get? target = some there) :
      Comes help world (.moveTo direction)
        ⟨.ok ("You move " ++ direction ++ ".\n" ++ there.describe), world.setLocation target⟩
  | noExit {direction room} (here : world.rooms.get? world.location = some room)
      (closed : room.exitTo? direction = none) :
      Comes help world (.moveTo direction) ⟨.error (.unknownExit direction room.id), world⟩
  | noTarget {direction target room} (here : world.rooms.get? world.location = some room)
      (leads : room.exitTo? direction = some target)
      (missing : world.rooms.get? target = none) :
      Comes help world (.moveTo direction) ⟨.error (.roomNotFound target), world⟩
  | took {item room} (here : world.rooms.get? world.location = some room) :
      Comes help world (.take item) ⟨.ok ("You take the " ++ item ++ "."), world.taken room item⟩
  | lit {item room} (effect : world.effects.effectOf item = .light)
      (unlit : world.flag (litFlag item) = false)
      (here : world.rooms.get? world.location = some room) :
      Comes help world (.useItem item)
        ⟨.ok ("You light the " ++ item ++ ". The " ++ world.location ++
            " is now illuminated!\n" ++ room.describe),
          world.setFlag (litFlag item) true⟩
  | alreadyLit {item} (effect : world.effects.effectOf item = .light)
      (lit : world.flag (litFlag item) = true) :
      Comes help world (.useItem item) ⟨.ok ("The " ++ item ++ " is already lit."), world⟩
  | consumed {item} (effect : world.effects.effectOf item = .consume)
      (carried : item ∈ world.player.inventory) :
      Comes help world (.useItem item)
        ⟨.ok ("You consume the " ++ item ++ "."), world.consumed item⟩
  | notCarried {item} (effect : world.effects.effectOf item = .consume)
      (missing : item ∉ world.player.inventory) :
      Comes help world (.useItem item) ⟨.ok ("You don't have the " ++ item ++ "."), world⟩
  | useless {item} (effect : world.effects.effectOf item = .none) :
      Comes help world (.useItem item) ⟨.ok ("You can't use the " ++ item ++ " right now."), world⟩

/-! ## Nothing else happens -/

theorem currentRoom_eq_ok_iff {world : World} {room : Room} :
    world.currentRoom = .ok room ↔ world.rooms.get? world.location = some room := by
  unfold currentRoom
  split <;> simp_all

theorem currentRoom_eq_error {world : World} (h : world.rooms.get? world.location = none) :
    world.currentRoom = .error (.roomNotFound world.location) := by
  rw [currentRoom, h]

theorem surroundings_of_nowhere {world : World}
    (missing : world.rooms.get? world.location = none) :
    world.surroundings = .error (.roomNotFound world.location) := by
  rw [surroundings, currentRoom_eq_error missing]
  rfl

theorem surroundings_of_located {world : World} {room : Room}
    (here : world.rooms.get? world.location = some room) :
    world.surroundings = .ok room.describe := by
  rw [surroundings, currentRoom_eq_ok_iff.2 here]
  rfl

theorem comes_look (help : List HelpEntry) (world : World) :
    Comes help world .look world.look := by
  cases here : world.rooms.get? world.location with
  | none =>
    rw [look, surroundings_of_nowhere here]
    exact .nowhere trivial here
  | some room =>
    rw [look, surroundings_of_located here]
    exact .looked here

theorem comes_move (help : List HelpEntry) (world : World) (direction : String) :
    Comes help world (.moveTo direction) (world.move direction) := by
  cases here : world.rooms.get? world.location with
  | none =>
    rw [move, currentRoom_eq_error here]
    exact .nowhere trivial here
  | some room =>
    rw [move, currentRoom_eq_ok_iff.2 here]
    cases leads : room.exitTo? direction with
    | none =>
      simp only [leads]
      exact .noExit here leads
    | some target =>
      cases arrival : world.rooms.get? target with
      | none =>
        simp only [leads, SortedMap.contains, arrival]
        exact .noTarget here leads arrival
      | some there =>
        have seen : (world.setLocation target).surroundings = .ok there.describe :=
          surroundings_of_located arrival
        simp only [leads, SortedMap.contains, arrival, seen]
        exact .moved here leads arrival

theorem remove_room (room : Room) (item : String) :
    (ItemHolder.remove room item).2 = { room with items := room.items.erase item } := by
  by_cases held : item ∈ room.items
  · exact congrArg Prod.snd (if_pos held)
  · rw [List.erase_of_not_mem held]
    exact congrArg Prod.snd (if_neg held)

theorem remove_player (player : Player) (item : String) :
    ItemHolder.remove player item =
      if item ∈ player.inventory then
        (true, { player with inventory := player.inventory.erase item })
      else (false, player) := rfl

theorem take_of_nowhere {world : World} (missing : world.rooms.get? world.location = none)
    (item : String) : world.take item = ⟨.error (.roomNotFound world.location), world⟩ := by
  rw [take, currentRoom_eq_error missing]

theorem take_of_located {world : World} {room : Room}
    (here : world.rooms.get? world.location = some room) (item : String) :
    world.take item = ⟨.ok ("You take the " ++ item ++ "."), world.taken room item⟩ := by
  rw [take, currentRoom_eq_ok_iff.2 here]
  simp only [remove_room]
  rfl

theorem comes_take (help : List HelpEntry) (world : World) (item : String) :
    Comes help world (.take item) (world.take item) := by
  cases here : world.rooms.get? world.location with
  | none =>
    rw [take_of_nowhere here]
    exact .nowhere trivial here
  | some room =>
    rw [take_of_located here]
    exact .took here

theorem comes_useItem (help : List HelpEntry) (world : World) (item : String) :
    Comes help world (.useItem item) (world.useItem item) := by
  cases effect : world.effects.effectOf item with
  | light =>
    simp only [useItem, effect, light]
    cases lit : world.flag (litFlag item) with
    | true => exact .alreadyLit effect lit
    | false =>
      cases here : world.rooms.get? world.location with
      | none =>
        simp only [surroundings_of_nowhere here]
        exact .nowhere ⟨effect, lit⟩ here
      | some room =>
        simp only [surroundings_of_located here]
        exact .lit effect lit here
  | consume =>
    simp only [useItem, effect, consume, remove_player]
    by_cases carried : item ∈ world.player.inventory
    · rw [if_pos carried]
      exact .consumed effect carried
    · rw [if_neg carried]
      exact .notCarried effect carried
  | none =>
    simp only [useItem, effect]
    exact .useless effect

theorem comes_perform (help : List HelpEntry) (world : World) (command : Command) :
    Comes help world command (world.perform help command) := by
  cases command with
  | look => exact comes_look help world
  | inventory => exact .inventory
  | help => exact .help
  | quit => exact .quit
  | moveTo direction => exact comes_move help world direction
  | take item => exact comes_take help world item
  | useItem item => exact comes_useItem help world item
  | unknown => exact .unknown

/-! ## What every outcome keeps -/

section Keeping

variable {help : List HelpEntry} {world : World} {command : Command} {turn : Turn}

theorem get?_rooms_taken (world : World) (room : Room) (item id : String) :
    (world.taken room item).rooms.get? id =
      if id = world.location then some { room with items := room.items.erase item }
      else world.rooms.get? id :=
  SortedMap.get?_insert _ _ _ _

theorem Comes.map_rooms {α : Type} (comes : Comes help world command turn) (view : Room → α)
    (blind : ∀ room items, view { room with items } = view room) (id : String) :
    (turn.world.rooms.get? id).map view = (world.rooms.get? id).map view := by
  cases comes with
  | took here =>
    rw [get?_rooms_taken]
    split
    · rename_i same
      rw [same, here, Option.map_some, Option.map_some, blind]
    · rfl
  | _ => rfl

theorem Comes.effects (comes : Comes help world command turn) :
    turn.world.effects = world.effects := by
  cases comes <;> rfl

end Keeping

/-! ## Runs -/

def after (help : List HelpEntry) (world : World) (lines : List String) : World :=
  lines.foldl (fun world line => (world.answer help line).world) world

/-- What every outcome keeps, a run keeps. -/
theorem after_induction {help : List HelpEntry} {invariant : World → Prop}
    (kept : ∀ world command turn, Comes help world command turn → invariant world →
      invariant turn.world)
    {world : World} (holds : invariant world) (lines : List String) :
    invariant (world.after help lines) := by
  induction lines generalizing world with
  | nil => exact holds
  | cons line rest ih => exact ih (kept _ _ _ (comes_perform help world (.parse line)) holds)

end Parlor.World
