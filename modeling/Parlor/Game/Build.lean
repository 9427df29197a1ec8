import Parlor.Game.Validation
import Parlor.World.Basic

namespace Parlor

def RoomDefinition.room (definition : RoomDefinition) (id : String) : Room :=
  ⟨id, definition.description, definition.exits, definition.items⟩

namespace GameDefinition

def world (game : GameDefinition) : World where
  rooms := game.rooms.mapWithName fun id room => room.room id
  player := .new game.startRoom
  flags := .empty
  effects := Effects.builtIn.extend game.effects

def build (game : GameDefinition) : Except (List Problem) World :=
  if game.problems.isEmpty then .ok game.world else .error game.problems

end GameDefinition

end Parlor
