import Parlor.Proofs.World.Flags
/-!
# Uses of different items

What the use of an item does is decided by that item's effect, its flag and whether it is carried,
and by whether the player stands in a room. Nothing that is done with another item touches these
(`alike_done`, `alike_take`), and what is done with different items commutes (`done_done`,
`take_done`), so that the order does not matter (`independent_of_ne`).
-/

namespace Parlor.World

inductive Deed where
  | nothing
  | lighting
  | consumption

def deedOf (world : World) (item : String) : Deed :=
  match world.effects.effectOf item with
  | .light =>
    if !world.flag (litFlag item) && world.rooms.contains world.location then .lighting
    else .nothing
  | .consume => if item ∈ world.player.inventory then .consumption else .nothing
  | .none => .nothing

def done (world : World) (item : String) : Deed → World
  | .nothing => world
  | .lighting => world.setFlag (litFlag item) true
  | .consumption => world.consumed item

variable {world next : World} {item other : String}

theorem world_useItem (world : World) (item : String) :
    (world.useItem item).world = world.done item (world.deedOf item) := by
  have comes := comes_useItem [] world item
  generalize world.useItem item = turn at comes
  cases comes with
  | nowhere needs missing => simp [deedOf, needs.1, SortedMap.contains, missing, done]
  | lit effect unlit here => simp [deedOf, effect, unlit, SortedMap.contains, here, done]
  | alreadyLit effect lit => simp [deedOf, effect, lit, done]
  | consumed effect carried => simp [deedOf, effect, carried, done]
  | notCarried effect missing => simp [deedOf, effect, missing, done]
  | useless effect => simp [deedOf, effect, done]

theorem location_done (world : World) (item : String) (deed : Deed) :
    (world.done item deed).location = world.location := by
  cases deed <;> rfl

theorem rooms_done (world : World) (item : String) (deed : Deed) :
    (world.done item deed).rooms = world.rooms := by
  cases deed <;> rfl

theorem surroundings_done (world : World) (item : String) (deed : Deed) :
    (world.done item deed).surroundings = world.surroundings := by
  rw [surroundings, surroundings, currentRoom, currentRoom, rooms_done, location_done]

theorem here_done (world : World) (item : String) (deed : Deed) :
    (world.done item deed).rooms.get? (world.done item deed).location =
      world.rooms.get? world.location := by
  rw [rooms_done, location_done]

structure Alike (item : String) (world next : World) : Prop where
  effects : next.effects = world.effects
  lit : next.flag (litFlag item) = world.flag (litFlag item)
  carried : item ∈ next.player.inventory ↔ item ∈ world.player.inventory
  standing : next.rooms.contains next.location = world.rooms.contains world.location

theorem Alike.deedOf_eq (alike : Alike item world next) :
    next.deedOf item = world.deedOf item := by
  simp only [deedOf, alike.effects, alike.lit, alike.carried, alike.standing]

theorem alike_done (differ : item ≠ other) (world : World) (deed : Deed) :
    Alike item world (world.done other deed) := by
  cases deed with
  | nothing => exact ⟨rfl, rfl, .rfl, rfl⟩
  | lighting =>
    have apart : litFlag item ≠ litFlag other := fun same => differ (litFlag_inj.1 same)
    exact ⟨rfl, flag_insert_of_ne apart world true, .rfl, rfl⟩
  | consumption =>
    have apart := litFlag_ne_consumedFlag item other
    exact ⟨rfl, flag_insert_of_ne apart world true, List.mem_erase_of_ne differ, rfl⟩

theorem alike_take (differ : item ≠ other) (world : World) :
    Alike item world (world.take other).world := by
  cases here : world.rooms.get? world.location with
  | none =>
    rw [take_of_nowhere here]
    exact ⟨rfl, rfl, .rfl, rfl⟩
  | some room =>
    rw [take_of_located here]
    have carried : item ∈ world.player.inventory ++ [other] ↔ item ∈ world.player.inventory := by
      simp [differ]
    have standing : (world.taken room other).rooms.contains world.location =
        world.rooms.contains world.location := by
      simp [taken, SortedMap.contains, here]
    exact ⟨rfl, rfl, carried, standing⟩

theorem reply_consume (world : World) (item : String) :
    (world.consume item).reply =
      .ok (if item ∈ world.player.inventory then "You consume the " ++ item ++ "."
        else "You don't have the " ++ item ++ ".") := by
  rw [consume, remove_player]
  by_cases carried : item ∈ world.player.inventory
  · rw [if_pos carried, if_pos carried]
  · rw [if_neg carried, if_neg carried]

theorem Alike.reply_eq (alike : Alike item world next) (location : next.location = world.location)
    (seen : next.surroundings = world.surroundings) :
    (next.useItem item).reply = (world.useItem item).reply := by
  rw [useItem, useItem, alike.effects]
  cases world.effects.effectOf item with
  | light =>
    -- Only here the answer tells more than the deed, namely where the player is and what is there.
    simp only [light, alike.lit, seen, location]
    split
    · rfl
    · split <;> rfl
  | consume => simp only [reply_consume, alike.carried]
  | none => rfl

theorem done_done (differ : item ≠ other) (world : World) (deed further : Deed) :
    (world.done item deed).done other further = (world.done other further).done item deed := by
  have lit : litFlag item ≠ litFlag other := fun same => differ (litFlag_inj.1 same)
  have consumed : consumedFlag item ≠ consumedFlag other := fun same =>
    differ (consumedFlag_inj.1 same)
  cases deed with
  | nothing => rfl
  | lighting =>
    cases further with
    | nothing => rfl
    | lighting => simp only [done, setFlag, SortedMap.insert_comm _ lit]
    | consumption =>
      simp only [done, setFlag, World.consumed,
        SortedMap.insert_comm _ (litFlag_ne_consumedFlag item other)]
  | consumption =>
    cases further with
    | nothing => rfl
    | lighting =>
      simp only [done, setFlag, World.consumed,
        SortedMap.insert_comm _ (litFlag_ne_consumedFlag other item)]
    | consumption =>
      simp only [done, World.consumed, SortedMap.insert_comm _ consumed, List.erase_comm item other]

theorem done_taken (differ : item ≠ other) (world : World) (room : Room) (deed : Deed) :
    (world.done item deed).taken room other = (world.taken room other).done item deed := by
  cases deed with
  | nothing => rfl
  | lighting => rfl
  | consumption =>
    have carried : world.player.inventory.erase item ++ [other] =
        (world.player.inventory ++ [other]).erase item := by
      by_cases held : item ∈ world.player.inventory
      · rw [List.erase_append_left _ held]
      · rw [List.erase_append_right _ held, List.erase_of_not_mem held,
          List.erase_of_not_mem (by simpa using differ)]
    simp only [done, taken, World.consumed, carried]
    rfl

theorem take_done (differ : item ≠ other) (world : World) (deed : Deed) :
    (world.done item deed).take other =
      ⟨(world.take other).reply, (world.take other).world.done item deed⟩ := by
  cases here : world.rooms.get? world.location with
  | none =>
    rw [take_of_nowhere ((here_done world item deed).trans here), take_of_nowhere here,
      location_done]
  | some room =>
    rw [take_of_located ((here_done world item deed).trans here), take_of_located here,
      done_taken differ]

/-- It makes no difference which of two items is used first, nor whether the second one is used
before or after the first one is taken. -/
structure Independent (world : World) (item other : String) : Prop where
  uses : ((world.useItem item).world.useItem other).world =
    ((world.useItem other).world.useItem item).world
  first : (world.useItem item).reply = ((world.useItem other).world.useItem item).reply
  second : ((world.useItem item).world.useItem other).reply = (world.useItem other).reply
  takes : ((world.take item).world.useItem other).world =
    ((world.useItem other).world.take item).world
  taken : (world.take item).reply = ((world.useItem other).world.take item).reply

theorem independent_of_ne (world : World) {item other : String} (differ : item ≠ other) :
    Independent world item other where
  uses := calc
    ((world.useItem item).world.useItem other).world
      = (world.done item (world.deedOf item)).done other (world.deedOf other) := by
        rw [world_useItem, world_useItem, (alike_done differ.symm world _).deedOf_eq]
    _ = (world.done other (world.deedOf other)).done item (world.deedOf item) :=
        done_done differ world _ _
    _ = ((world.useItem other).world.useItem item).world := by
        rw [world_useItem, world_useItem, (alike_done differ world _).deedOf_eq]
  first := by
    rw [world_useItem world other, (alike_done differ world _).reply_eq (location_done ..)
      (surroundings_done ..)]
  second := by
    rw [world_useItem world item, (alike_done differ.symm world _).reply_eq (location_done ..)
      (surroundings_done ..)]
  takes := by
    rw [world_useItem, world_useItem, (alike_take differ.symm world).deedOf_eq,
      take_done differ.symm]
  taken := by
    rw [world_useItem, take_done differ.symm]

def larder : World where
  rooms := .ofList [("larder", ⟨"larder", "Cool shelves.", .empty, ["cheese", "bread"]⟩)]
  player := ⟨"larder", ["bread", "cheese", "bread"]⟩
  flags := .empty
  effects := .ofList [("bread", .consume), ("cheese", .consume)]

theorem independent_of_ne_larder :
    "bread" ≠ "cheese" ∧ Independent larder "bread" "cheese" :=
  ⟨by decide, independent_of_ne larder (by decide)⟩

example : ((larder.useItem "bread").world.useItem "cheese").world.player.inventory = ["bread"] := by
  decide

end Parlor.World
