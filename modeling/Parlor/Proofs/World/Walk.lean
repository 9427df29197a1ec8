import Parlor.Proofs.World.History

namespace Parlor

namespace GameDefinition

def wayFrom (game : GameDefinition) (id direction : String) : String :=
  ((game.rooms.get? id).bind fun room => room.exits.get? direction).getD id

def walk (game : GameDefinition) (directions : List String) : String :=
  directions.foldl game.wayFrom game.startRoom

end GameDefinition

def Command.direction? : Command → Option String
  | .moveTo direction => some direction
  | _ => none

namespace World

def directions (lines : List String) : List String :=
  lines.filterMap fun line => (Command.parse line).direction?

variable {game : GameDefinition} {help : List HelpEntry} {world : World}

def Charted (game : GameDefinition) (world : World) : Prop :=
  ∀ id, (world.rooms.get? id).map Room.exits = (game.rooms.get? id).map RoomDefinition.exits

theorem charted_world (game : GameDefinition) : Charted game game.world := by
  intro id
  have rooms : game.world.rooms.get? id =
      (game.rooms.get? id).map fun definition => definition.room id :=
    SortedMap.get?_mapWithName _ _ _
  rw [rooms, Option.map_map]
  rfl

theorem Charted.wayFrom_location {room : Room} (charted : Charted game world)
    (here : world.rooms.get? world.location = some room) (direction : String) :
    game.wayFrom world.location direction =
      (room.exitTo? direction).getD world.location := by
  have exits := charted world.location
  rw [here, Option.map_some] at exits
  obtain ⟨definition, found, same⟩ := Option.map_eq_some_iff.1 exits.symm
  rw [GameDefinition.wayFrom, found, Option.bind_some, same, Room.exitTo?]

theorem Comes.charted {command : Command} {turn : Turn} (comes : Comes help world command turn)
    (charted : Charted game world) : Charted game turn.world := by
  intro id
  rw [comes.map_rooms Room.exits fun _ _ => rfl, charted id]

theorem Comes.location {command : Command} {turn : Turn} (comes : Comes help world command turn)
    (footing : world.Footing) (charted : Charted game world) :
    turn.world.location = command.direction?.toList.foldl game.wayFrom world.location := by
  obtain ⟨standing, located⟩ := footing.located
  cases comes with
  | moved here leads arrival =>
    have way := charted.wayFrom_location here
    simp only [Command.direction?, Option.toList_some, List.foldl_cons, List.foldl_nil]
    rw [way, leads]
    rfl
  | noExit here closed =>
    have way := charted.wayFrom_location here
    simp only [Command.direction?, Option.toList_some, List.foldl_cons, List.foldl_nil]
    rw [way, closed]
    rfl
  | noTarget here leads missing =>
    obtain ⟨there, arrival⟩ := footing.exits _ _ here _ _ leads
    rw [missing] at arrival
    cases arrival
  | nowhere needs missing =>
    rw [missing] at located
    cases located
  | _ => rfl

theorem location_after_eq_foldl (footing : world.Footing) (charted : Charted game world)
    (lines : List String) :
    (world.after help lines).location = (directions lines).foldl game.wayFrom world.location := by
  induction lines generalizing world with
  | nil => rfl
  | cons line lines ih =>
    have comes := comes_perform help world (.parse line)
    have first : (world.answer help line).world.location = _ := comes.location footing charted
    have later := ih (comes.footing footing) (comes.charted charted)
    have split : directions (line :: lines) =
        (Command.parse line).direction?.toList ++ directions lines := by
      rw [directions, List.filterMap_cons]
      cases (Command.parse line).direction? <;> rfl
    rw [split, List.foldl_append, ← first]
    exact later

/-- The player gets to where the walk ends that the directions of the lines make through the game,
and other lines with the same directions lead to the same room. -/
theorem location_after (accepted : game.build = .ok world) (help : List HelpEntry)
    (lines : List String) :
    (world.after help lines).location = game.walk (directions lines) ∧
      ∀ otherHelp others, directions others = directions lines →
        (world.after otherHelp others).location = (world.after help lines).location := by
  obtain ⟨-, rfl⟩ := GameDefinition.build_eq_ok_iff.1 accepted
  have footing := footing_of_build accepted
  have walked (help : List HelpEntry) (lines : List String) :
      (game.world.after help lines).location = game.walk (directions lines) :=
    location_after_eq_foldl footing (charted_world game) lines
  refine ⟨walked help lines, ?_⟩
  intro otherHelp others same
  rw [walked, walked, same]

theorem location_after_feast :
    feastGame.build = .ok feastGame.world ∧
      directions ["GO  down", "go down", "use torch", "go up", "look"] =
        directions ["take bread", "go down", "dance", "go down", "quit", "go up"] ∧
      (feastGame.world.after HelpEntry.builtIn
          ["take bread", "go down", "dance", "go down", "quit", "go up"]).location =
        feastGame.walk
          (directions ["take bread", "go down", "dance", "go down", "quit", "go up"]) ∧
      (feastGame.world.after []
          ["GO  down", "go down", "use torch", "go up", "look"]).location =
        (feastGame.world.after HelpEntry.builtIn
          ["take bread", "go down", "dance", "go down", "quit", "go up"]).location := by
  have accepted : feastGame.build = .ok feastGame.world := if_pos (by decide)
  have same : directions ["GO  down", "go down", "use torch", "go up", "look"] =
      directions ["take bread", "go down", "dance", "go down", "quit", "go up"] := by
    decide +kernel
  obtain ⟨walked, others⟩ := location_after accepted HelpEntry.builtIn
    ["take bread", "go down", "dance", "go down", "quit", "go up"]
  exact ⟨accepted, same, walked, others [] _ same⟩

example : feastGame.walk ["down", "down", "up", "down"] = "cellar" := by decide

end World

end Parlor
