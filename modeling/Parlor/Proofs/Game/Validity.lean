import Parlor.Game.Build
import Parlor.Proofs.Text.Words

namespace Parlor.GameDefinition

/-- The game begins in one of its rooms, whose name is not blank, and exits lead to its rooms. -/
structure Valid (game : GameDefinition) : Prop where
  named : ∃ c ∈ game.startRoom.toList, Text.isSpace c = false
  start : ∃ room, game.rooms.get? game.startRoom = some room
  exits : ∀ id room, game.rooms.get? id = some room →
    ∀ direction target, room.exits.get? direction = some target →
      ∃ there, game.rooms.get? target = some there

theorem startProblems_eq_nil_iff {game : GameDefinition} :
    game.startProblems = [] ↔
      (∃ c ∈ game.startRoom.toList, Text.isSpace c = false) ∧
        ∃ room, game.rooms.get? game.startRoom = some room := by
  rw [startProblems, ← SortedMap.contains_iff, ← Text.isBlank_eq_false_iff]
  cases Text.isBlank game.startRoom <;> cases game.rooms.contains game.startRoom <;> simp

theorem exitProblems_eq_nil_iff {game : GameDefinition} {id : String} {room : RoomDefinition} :
    game.exitProblems id room = [] ↔
      ∀ direction target, room.exits.get? direction = some target →
        ∃ there, game.rooms.get? target = some there := by
  rw [exitProblems, List.filterMap_eq_nil_iff]
  constructor
  · intro none direction target leads
    have := none (direction, target) (OrderedMap.get?_eq_some_iff.1 leads)
    rw [← SortedMap.contains_iff]
    simpa using this
  · rintro leads ⟨direction, target⟩ member
    have there := leads direction target (OrderedMap.get?_eq_some_iff.2 member)
    rw [← SortedMap.contains_iff] at there
    simp [there]

theorem problems_eq_nil_iff {game : GameDefinition} : game.problems = [] ↔ game.Valid := by
  rw [problems, List.append_eq_nil_iff, startProblems_eq_nil_iff, List.flatMap_eq_nil_iff]
  constructor
  · rintro ⟨⟨named, start⟩, none⟩
    refine ⟨named, start, ?_⟩
    intro id room found
    exact exitProblems_eq_nil_iff.1 (none (id, room) (SortedMap.get?_eq_some_iff.1 found))
  · rintro ⟨named, start, exits⟩
    refine ⟨⟨named, start⟩, ?_⟩
    rintro ⟨id, room⟩ member
    exact exitProblems_eq_nil_iff.2 (exits id room (SortedMap.get?_eq_some_iff.2 member))

theorem build_eq_ok_iff {game : GameDefinition} {world : World} :
    game.build = .ok world ↔ game.Valid ∧ game.world = world := by
  rw [build, ← problems_eq_nil_iff, ← List.isEmpty_iff]
  split <;> simp_all

end Parlor.GameDefinition
