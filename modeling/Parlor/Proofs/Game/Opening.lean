import Parlor.Proofs.Game.Validity

namespace Parlor

namespace Effects

theorem get?_extend (effects : Effects) (given : SortedMap Effect) (item : String) :
    (effects.extend given).get? item = (given.get? item).or (effects.get? item) := by
  cases found : given.get? item with
  | some effect =>
    exact effects.get?_insertAll_of_mem given.distinct_keys (SortedMap.get?_eq_some_iff.1 found)
  | none =>
    refine effects.get?_insertAll_of_forall_ne ?_
    rintro ⟨name, effect⟩ member rfl
    rw [SortedMap.get?_eq_some_iff.2 member] at found
    cases found

theorem get?_builtIn (item : String) :
    builtIn.get? item = if item = "torch" then some .light else none :=
  SortedMap.get?_insert .empty "torch" item Effect.light

theorem effectOf_extend_builtIn (given : SortedMap Effect) (item : String) :
    (builtIn.extend given).effectOf item =
      (given.get? item).getD (if item = "torch" then .light else .none) := by
  rw [effectOf, get?_extend, get?_builtIn]
  cases given.get? item with
  | some effect => rfl
  | none => split <;> rfl

theorem extend_builtIn (given : SortedMap Effect) :
    builtIn.extend given =
      if given.contains "torch" then given else given.insert "torch" .light := by
  apply SortedMap.ext_get?
  intro item
  rw [get?_extend, get?_builtIn]
  by_cases torch : item = "torch"
  · subst torch
    cases found : given.get? "torch" <;> simp [SortedMap.contains, found]
  · cases known : given.contains "torch" <;> simp [torch, SortedMap.get?_insert]

theorem size_extend_builtIn (given : SortedMap Effect) :
    (builtIn.extend given).size = given.size + if given.contains "torch" then 0 else 1 := by
  rw [extend_builtIn]
  cases known : given.contains "torch" with
  | true => rfl
  | false => simp [SortedMap.size_insert, known]

end Effects

theorem World.foldl_addRoom (rooms : List Room) (world : World) :
    rooms.foldl addRoom world =
      { world with rooms := world.rooms.insertAll (rooms.map fun room => (room.id, room)) } := by
  induction rooms generalizing world with
  | nil => rfl
  | cons room rooms ih => exact ih (world.addRoom room)

namespace GameDefinition

theorem world_eq_start (game : GameDefinition) :
    game.world =
      { World.start (game.rooms.entries.map fun entry => entry.2.room entry.1) game.startRoom with
        effects := Effects.builtIn.extend game.effects } := by
  have listed : (game.rooms.entries.map fun entry => entry.2.room entry.1).map
      (fun room => (room.id, room)) =
        (game.rooms.mapWithName fun id room => room.room id).entries := by
    rw [List.map_map]
    rfl
  rw [World.start, World.foldl_addRoom, listed, world]
  congr
  exact (SortedMap.ofList_of_perm .rfl).symm

/-- A game begins with the rooms that were defined, with the player in the start room, empty-handed
and without flags, and with the effects that were defined; only a torch has one otherwise. -/
theorem opening_of_build {game : GameDefinition} {world : World} (built : game.build = .ok world) :
    world.rooms.keys = game.rooms.keys ∧
      (∀ id, world.rooms.get? id = (game.rooms.get? id).map fun room =>
        ⟨id, room.description, room.exits, room.items⟩) ∧
      world.player = ⟨game.startRoom, []⟩ ∧
      world.flags = .empty ∧
      (∀ item, world.effects.effectOf item =
        (game.effects.get? item).getD (if item = "torch" then .light else .none)) ∧
      world.effects.size = game.effects.size + (if game.effects.contains "torch" then 0 else 1) ∧
      world =
        { World.start (game.rooms.entries.map fun entry => entry.2.room entry.1) game.startRoom with
          effects := Effects.builtIn.extend game.effects } := by
  obtain ⟨-, rfl⟩ := build_eq_ok_iff.1 built
  refine ⟨SortedMap.keys_mapWithName _ _, SortedMap.get?_mapWithName _ _, rfl, rfl, ?_, ?_,
    game.world_eq_start⟩
  · exact Effects.effectOf_extend_builtIn game.effects
  · exact Effects.size_extend_builtIn game.effects

def dampGame : GameDefinition where
  startRoom := "well"
  rooms := .ofList
    [("well", ⟨"A damp well.", .ofList [("up", "green"), ("down", "well")],
        ["rope", "torch", "rope"]⟩),
      ("green", ⟨"A village green.", .empty, []⟩)]
  effects := .ofList [("torch", .none), ("rope", .consume)]

theorem opening_of_build_damp :
    dampGame.build = .ok dampGame.world ∧
      dampGame.world.rooms.keys = dampGame.rooms.keys ∧
      (∀ id, dampGame.world.rooms.get? id = (dampGame.rooms.get? id).map fun room =>
        ⟨id, room.description, room.exits, room.items⟩) ∧
      dampGame.world.player = ⟨dampGame.startRoom, []⟩ ∧
      dampGame.world.flags = .empty ∧
      (∀ item, dampGame.world.effects.effectOf item =
        (dampGame.effects.get? item).getD (if item = "torch" then .light else .none)) ∧
      dampGame.world.effects.size =
        dampGame.effects.size + (if dampGame.effects.contains "torch" then 0 else 1) ∧
      dampGame.world =
        { World.start (dampGame.rooms.entries.map fun entry => entry.2.room entry.1)
            dampGame.startRoom with
          effects := Effects.builtIn.extend dampGame.effects } := by
  have built : dampGame.build = .ok dampGame.world := if_pos (by decide)
  exact ⟨built, opening_of_build built⟩

end GameDefinition

end Parlor
