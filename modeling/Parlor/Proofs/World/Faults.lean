import Parlor.Proofs.World.Outcomes

namespace Parlor.World

inductive Fails (world : World) : Command → Fault → Prop
  | nowhere {command} (needs : world.NeedsRoom command)
      (missing : world.rooms.get? world.location = none) :
      Fails world command (.roomNotFound world.location)
  | noExit {direction room} (here : world.rooms.get? world.location = some room)
      (closed : room.exitTo? direction = none) :
      Fails world (.moveTo direction) (.unknownExit direction room.id)
  | noTarget {direction target room} (here : world.rooms.get? world.location = some room)
      (leads : room.exitTo? direction = some target)
      (missing : world.rooms.get? target = none) :
      Fails world (.moveTo direction) (.roomNotFound target)

variable {world : World} {command : Command} {fault : Fault}

theorem Comes.fails {help : List HelpEntry} {turn : Turn} (comes : Comes help world command turn)
    (failed : turn.reply = .error fault) : world.Fails command fault ∧ turn.world = world := by
  cases comes with
  | nowhere needs missing =>
    cases failed
    exact ⟨.nowhere needs missing, rfl⟩
  | noExit here closed =>
    cases failed
    exact ⟨.noExit here closed, rfl⟩
  | noTarget here leads missing =>
    cases failed
    exact ⟨.noTarget here leads missing, rfl⟩
  | _ => cases failed

theorem reply_of_nowhere (help : List HelpEntry) (needs : world.NeedsRoom command)
    (missing : world.rooms.get? world.location = none) :
    (world.perform help command).reply = .error (.roomNotFound world.location) := by
  cases command with
  | look => rw [perform, look, surroundings_of_nowhere missing]
  | moveTo direction => rw [perform, move, currentRoom_eq_error missing]
  | take item => rw [perform, take_of_nowhere missing]
  | useItem item =>
    obtain ⟨effect, unlit⟩ := needs
    simp only [perform, useItem, effect, light, unlit, surroundings_of_nowhere missing]
    rfl
  | inventory | help | quit | unknown => cases needs

theorem Fails.reply (help : List HelpEntry) (fails : world.Fails command fault) :
    (world.perform help command).reply = .error fault := by
  cases fails with
  | nowhere needs missing => exact reply_of_nowhere help needs missing
  | noExit here closed => simp only [perform, move, currentRoom_eq_ok_iff.2 here, closed]
  | noTarget here leads missing =>
    simp only [perform, move, currentRoom_eq_ok_iff.2 here, leads, SortedMap.contains, missing]
    rfl

theorem reply_eq_error_iff (help : List HelpEntry) :
    (world.perform help command).reply = .error fault ↔ world.Fails command fault :=
  ⟨fun failed => ((comes_perform help world command).fails failed).1, fun fails => fails.reply help⟩

theorem fails_unknownExit_iff {direction id : String} :
    world.Fails command (.unknownExit direction id) ↔
      command = .moveTo direction ∧ ∃ room, world.rooms.get? world.location = some room ∧
        room.exitTo? direction = none ∧ id = room.id := by
  constructor
  · intro fails
    cases fails with
    | noExit here closed => exact ⟨rfl, _, here, closed, rfl⟩
  · rintro ⟨rfl, room, here, closed, rfl⟩
    exact .noExit here closed

theorem fails_roomNotFound_iff {target : String} :
    world.Fails command (.roomNotFound target) ↔
      (target = world.location ∧ world.rooms.get? world.location = none ∧
          world.NeedsRoom command) ∨
        ∃ direction room, command = .moveTo direction ∧
          world.rooms.get? world.location = some room ∧ room.exitTo? direction = some target ∧
          world.rooms.get? target = none := by
  constructor
  · intro fails
    cases fails with
    | nowhere needs missing => exact .inl ⟨rfl, missing, needs⟩
    | noTarget here leads missing => exact .inr ⟨_, _, rfl, here, leads, missing⟩
  · rintro (⟨rfl, missing, needs⟩ | ⟨direction, room, rfl, here, leads, missing⟩)
    · exact .nowhere needs missing
    · exact .noTarget here leads missing

theorem fails_location_iff :
    world.Fails command (.roomNotFound world.location) ↔
      world.rooms.get? world.location = none ∧ world.NeedsRoom command := by
  rw [fails_roomNotFound_iff]
  constructor
  · rintro (⟨-, missing, needs⟩ | ⟨direction, room, -, here, -, missing⟩)
    · exact ⟨missing, needs⟩
    · rw [missing] at here
      cases here
  · rintro ⟨missing, needs⟩
    exact .inl ⟨rfl, missing, needs⟩

theorem exists_reply_eq_ok_iff (help : List HelpEntry) :
    (∃ text, (world.perform help command).reply = .ok text) ↔
      ∀ fault, ¬ world.Fails command fault := by
  simp only [← reply_eq_error_iff help]
  cases (world.perform help command).reply with
  | error fault => simp
  | ok text => simp

/-- A command that fails leaves the world as it was. It fails in one of three ways, each just when
its reason holds, and succeeds in every other case. -/
theorem fault_iff (help : List HelpEntry) (world : World) (command : Command) :
    let turn := world.perform help command
    (∀ fault, turn.reply = .error fault → turn.world = world) ∧
      (turn.reply = .error (.roomNotFound world.location) ↔
        world.rooms.get? world.location = none ∧ world.NeedsRoom command) ∧
      (∀ direction id, turn.reply = .error (.unknownExit direction id) ↔
        command = .moveTo direction ∧ ∃ room, world.rooms.get? world.location = some room ∧
          room.exitTo? direction = none ∧ id = room.id) ∧
      (∀ target, turn.reply = .error (.roomNotFound target) ↔
        (target = world.location ∧ world.rooms.get? world.location = none ∧
            world.NeedsRoom command) ∨
          ∃ direction room, command = .moveTo direction ∧
            world.rooms.get? world.location = some room ∧ room.exitTo? direction = some target ∧
            world.rooms.get? target = none) ∧
      ((∃ text, turn.reply = .ok text) ↔ ∀ fault, ¬ world.Fails command fault) := by
  refine ⟨?_, ?_, ?_, ?_, exists_reply_eq_ok_iff help⟩
  · intro fault failed
    exact ((comes_perform help world command).fails failed).2
  · exact (reply_eq_error_iff help).trans fails_location_iff
  · intro direction id
    exact (reply_eq_error_iff help).trans fails_unknownExit_iff
  · intro target
    exact (reply_eq_error_iff help).trans fails_roomNotFound_iff

end Parlor.World
