import Parlor.World.Effect
import Parlor.World.Player
import Parlor.World.Room
/-!
# Worlds

A world is everything that can change while a game is played: the rooms, the player, the flags
that record what has happened to items, and the effects of items. A world may be ill-formed: the
player may stand in a room that does not exist, and an exit may lead nowhere.
-/

namespace Parlor

structure World where
  rooms : SortedMap Room
  player : Player
  flags : SortedMap Bool
  effects : Effects
deriving DecidableEq

inductive Fault where
  | unknownExit (direction room : String)
  | roomNotFound (room : String)
deriving DecidableEq, Repr

def Fault.message : Fault → String
  | .unknownExit direction room =>
    "Which way is '" ++ direction ++ "'? There's no exit like that from the " ++ room ++ "."
  | .roomNotFound room => "room '" ++ room ++ "' not found in the room graph"

namespace World

def addRoom (world : World) (room : Room) : World :=
  { world with rooms := world.rooms.insert room.id room }

def start (rooms : List Room) (location : String) : World :=
  rooms.foldl addRoom ⟨.empty, .new location, .empty, .builtIn⟩

/-- Whether two worlds are alike. The order of the exits of a room does not matter for this. -/
def agrees (world other : World) : Bool :=
  world.rooms.agreesBy Room.agrees other.rooms && world.player = other.player &&
    world.flags = other.flags && world.effects = other.effects

def location (world : World) : String := world.player.location

def currentRoom (world : World) : Except Fault Room :=
  match world.rooms.get? world.location with
  | some room => .ok room
  | none => .error (.roomNotFound world.location)

def setCurrentRoom (world : World) (room : Room) : World :=
  { world with rooms := world.rooms.insert world.location room }

def setLocation (world : World) (location : String) : World :=
  { world with player := { world.player with location } }

def flag (world : World) (name : String) : Bool := (world.flags.get? name).getD false

def setFlag (world : World) (name : String) (value : Bool) : World :=
  { world with flags := world.flags.insert name value }

def litFlag (item : String) : String := item ++ "_lit"

def consumedFlag (item : String) : String := item ++ "_consumed"

end World

end Parlor
