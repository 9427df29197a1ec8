import Parlor.Game.Loading
import Parlor.Proofs.Game.Validity
import Parlor.Proofs.World.Outcomes

namespace Parlor.World

structure Footing (world : World) : Prop where
  located : ∃ room, world.rooms.get? world.location = some room
  named : ∀ id room, world.rooms.get? id = some room → room.id = id
  exits : ∀ id room, world.rooms.get? id = some room →
    ∀ direction target, room.exitTo? direction = some target →
      ∃ there, world.rooms.get? target = some there

inductive Begins : World → Prop
  | built {game : GameDefinition} {world} (accepted : game.build = .ok world) : Begins world
  | loaded {path : String} {node : FileNode} {world}
      (accepted : Game.load path node = .ok world) : Begins world

theorem built_of_load {path : String} {node : FileNode} {world : World}
    (h : Game.load path node = .ok world) : ∃ game : GameDefinition, game.build = .ok world := by
  unfold Game.load at h
  split at h
  · cases h
  · split at h
    · cases h
    · rename_i game _
      unfold Game.start at h
      split at h
      · rename_i built
        cases h
        exact ⟨game, built⟩
      · cases h

theorem footing_of_build {game : GameDefinition} {world : World} (h : game.build = .ok world) :
    world.Footing := by
  obtain ⟨valid, rfl⟩ := GameDefinition.build_eq_ok_iff.1 h
  have rooms (id : String) : game.world.rooms.get? id =
      (game.rooms.get? id).map fun definition => definition.room id :=
    SortedMap.get?_mapWithName _ _ _
  refine ⟨?_, ?_, ?_⟩
  · obtain ⟨definition, found⟩ := valid.start
    exact ⟨definition.room game.startRoom, by rw [rooms]; exact congrArg _ found⟩
  · intro id room found
    rw [rooms] at found
    obtain ⟨definition, -, rfl⟩ := Option.map_eq_some_iff.1 found
    rfl
  · intro id room found direction target leads
    rw [rooms] at found
    obtain ⟨definition, defined, rfl⟩ := Option.map_eq_some_iff.1 found
    obtain ⟨there, arrival⟩ := valid.exits id definition defined direction target leads
    exact ⟨there.room target, by rw [rooms, arrival]; rfl⟩

theorem Begins.exists_build {world : World} (h : Begins world) :
    ∃ game : GameDefinition, game.build = .ok world := by
  cases h with
  | built accepted => exact ⟨_, accepted⟩
  | loaded accepted => exact built_of_load accepted

theorem Begins.footing {world : World} (h : Begins world) : world.Footing := by
  obtain ⟨game, accepted⟩ := h.exists_build
  exact footing_of_build accepted

theorem Footing.taken {world : World} {room : Room} (h : world.Footing)
    (here : world.rooms.get? world.location = some room) (item : String) :
    (world.taken room item).Footing := by
  have still {id : String} (found : ∃ there, world.rooms.get? id = some there) :
      ∃ there, (world.taken room item).rooms.get? id = some there := by
    rw [get?_rooms_taken]
    split
    · exact ⟨_, rfl⟩
    · exact found
  have before {id : String} {there : Room}
      (found : (world.taken room item).rooms.get? id = some there) :
      ∃ old, world.rooms.get? id = some old ∧ there.id = old.id ∧ there.exits = old.exits := by
    rw [get?_rooms_taken] at found
    split at found
    · rename_i same
      cases found
      exact ⟨room, same ▸ here, rfl, rfl⟩
    · exact ⟨there, found, rfl, rfl⟩
  refine ⟨still h.located, ?_, ?_⟩
  · intro id there found
    obtain ⟨old, found, sameId, -⟩ := before found
    rw [sameId]
    exact h.named id old found
  · intro id there found direction target leads
    obtain ⟨old, found, -, sameExits⟩ := before found
    rw [Room.exitTo?, sameExits] at leads
    exact still (h.exits id old found direction target leads)

theorem Comes.footing {help : List HelpEntry} {world : World} {command : Command} {turn : Turn}
    (comes : Comes help world command turn) (h : world.Footing) : turn.world.Footing := by
  cases comes with
  | moved here leads arrival => exact ⟨⟨_, arrival⟩, h.named, h.exits⟩
  | took here => exact h.taken here _
  | lit effect unlit here => exact ⟨h.located, h.named, h.exits⟩
  | consumed effect carried => exact ⟨h.located, h.named, h.exits⟩
  | _ => exact h

theorem Footing.after {world : World} (h : world.Footing) (help : List HelpEntry)
    (lines : List String) : (world.after help lines).Footing :=
  after_induction (fun _ _ _ comes => comes.footing) h lines

theorem Comes.fault {help : List HelpEntry} {world : World} {command : Command} {turn : Turn}
    (comes : Comes help world command turn) (h : world.Footing) {fault : Fault}
    (failed : turn.reply = .error fault) :
    ∃ direction room, command = .moveTo direction ∧ world.currentRoom = .ok room ∧
      room.exitTo? direction = none ∧ fault = .unknownExit direction world.location := by
  obtain ⟨standing, located⟩ := h.located
  cases comes with
  | nowhere needs missing =>
    rw [missing] at located
    cases located
  | noTarget here leads missing =>
    obtain ⟨there, arrival⟩ := h.exits _ _ here _ _ leads
    rw [missing] at arrival
    cases arrival
  | noExit here closed =>
    cases failed
    refine ⟨_, _, rfl, currentRoom_eq_ok_iff.2 here, closed, ?_⟩
    rw [h.named _ _ here]
  | _ => cases failed

/-- In every state of a game the player has footing, and the only fault that a line can have is an
exit that the room does not have. -/
theorem footing_after {world : World} (begins : Begins world) (help : List HelpEntry)
    (lines : List String) :
    (world.after help lines).Footing ∧
      ∀ line fault, ((world.after help lines).answer help line).reply = .error fault →
        ∃ direction room, Command.parse line = .moveTo direction ∧
          (world.after help lines).currentRoom = .ok room ∧
          room.exitTo? direction = none ∧
          fault = .unknownExit direction (world.after help lines).location := by
  have footing : (world.after help lines).Footing := begins.footing.after help lines
  refine ⟨footing, ?_⟩
  intro line fault failed
  exact (comes_perform help _ (.parse line)).fault footing failed

def caveGame : GameDefinition where
  startRoom := "cave"
  rooms := .ofList
    [("forest", ⟨"You are in a sunlit forest.", .empty, []⟩),
      ("cave", ⟨"You are in a dark cave.", .ofList [("north", "forest")], ["torch"]⟩)]
  effects := .empty

theorem footing_after_cave :
    Begins caveGame.world ∧
      (caveGame.world.after HelpEntry.builtIn ["take torch", "go north"]).Footing ∧
      ∀ line fault, ((caveGame.world.after HelpEntry.builtIn ["take torch", "go north"]).answer
          HelpEntry.builtIn line).reply = .error fault →
        ∃ direction room, Command.parse line = .moveTo direction ∧
          (caveGame.world.after HelpEntry.builtIn ["take torch", "go north"]).currentRoom =
            .ok room ∧
          room.exitTo? direction = none ∧
          fault = .unknownExit direction
            (caveGame.world.after HelpEntry.builtIn ["take torch", "go north"]).location := by
  have valid : caveGame.problems.isEmpty = true := by decide
  have accepted : caveGame.build = .ok caveGame.world := if_pos valid
  have begins : Begins caveGame.world := .built accepted
  exact ⟨begins, footing_after begins _ _⟩

end Parlor.World
