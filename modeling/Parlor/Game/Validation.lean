import Parlor.Game.Definition
import Parlor.Text.Space

namespace Parlor

inductive Problem where
  | startRoomBlank
  | startRoomMissing (id : String)
  | exitMissing (room direction target : String)
deriving DecidableEq, Repr

namespace Problem

def context : Problem → String
  | startRoomBlank => "start room missing"
  | startRoomMissing _ => "start room"
  | exitMissing room direction _ => "exit '" ++ direction ++ "' from room '" ++ room ++ "'"

def missingRoom? : Problem → Option String
  | startRoomBlank => none
  | startRoomMissing id => some id
  | exitMissing _ _ target => some target

def message (problem : Problem) : String :=
  match problem.missingRoom? with
  | none => "invalid value (" ++ problem.context ++ ")"
  | some id => "missing room '" ++ id ++ "' (" ++ problem.context ++ ")"

end Problem

namespace GameDefinition

def startProblems (game : GameDefinition) : List Problem :=
  if Text.isBlank game.startRoom then [.startRoomBlank]
  else if game.rooms.contains game.startRoom then []
  else [.startRoomMissing game.startRoom]

def exitProblems (game : GameDefinition) (id : String) (room : RoomDefinition) : List Problem :=
  room.exits.entries.filterMap fun (direction, target) =>
    if game.rooms.contains target then none else some (.exitMissing id direction target)

def problems (game : GameDefinition) : List Problem :=
  game.startProblems ++ game.rooms.entries.flatMap fun (id, room) => game.exitProblems id room

end GameDefinition

end Parlor
