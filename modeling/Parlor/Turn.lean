import Parlor.Command
import Parlor.Help.Entry
import Parlor.World.Basic

namespace Parlor

structure Turn where
  reply : Except Fault String
  world : World

namespace World

def surroundings (world : World) : Except Fault String :=
  world.currentRoom.map Room.describe

def look (world : World) : Turn := ⟨world.surroundings, world⟩

def move (world : World) (direction : String) : Turn :=
  match world.currentRoom with
  | .error fault => ⟨.error fault, world⟩
  | .ok room =>
    match room.exitTo? direction with
    | none => ⟨.error (.unknownExit direction room.id), world⟩
    | some target =>
      if world.rooms.contains target then
        let arrived := world.setLocation target
        ⟨arrived.surroundings.map fun view => "You move " ++ direction ++ ".\n" ++ view, arrived⟩
      else ⟨.error (.roomNotFound target), world⟩

/-- Takes an item, whether or not a copy of it lies in the room. -/
def take (world : World) (item : String) : Turn :=
  match world.currentRoom with
  | .error fault => ⟨.error fault, world⟩
  | .ok room =>
    let left := world.setCurrentRoom (ItemHolder.remove room item).2
    ⟨.ok ("You take the " ++ item ++ "."),
      { left with player := ItemHolder.add left.player item }⟩

def light (world : World) (item : String) : Turn :=
  if world.flag (litFlag item) then ⟨.ok ("The " ++ item ++ " is already lit."), world⟩
  else match world.surroundings with
    | .error fault => ⟨.error fault, world⟩
    | .ok view =>
      ⟨.ok ("You light the " ++ item ++ ". The " ++ world.location ++
          " is now illuminated!\n" ++ view),
        world.setFlag (litFlag item) true⟩

def consume (world : World) (item : String) : Turn :=
  match ItemHolder.remove world.player item with
  | (false, _) => ⟨.ok ("You don't have the " ++ item ++ "."), world⟩
  | (true, player) =>
    ⟨.ok ("You consume the " ++ item ++ "."),
      { world with player }.setFlag (consumedFlag item) true⟩

def useItem (world : World) (item : String) : Turn :=
  match world.effects.effectOf item with
  | .light => world.light item
  | .consume => world.consume item
  | .none => ⟨.ok ("You can't use the " ++ item ++ " right now."), world⟩

def perform (help : List HelpEntry) (world : World) : Command → Turn
  | .look => world.look
  | .inventory => ⟨.ok world.player.inventoryText, world⟩
  | .help => ⟨.ok (HelpEntry.listText help), world⟩
  | .quit => ⟨.ok "Goodbye!", world⟩
  | .moveTo direction => world.move direction
  | .take item => world.take item
  | .useItem item => world.useItem item
  | .unknown => ⟨.ok "I don't understand that command.", world⟩

def answer (help : List HelpEntry) (world : World) (line : String) : Turn :=
  world.perform help (Command.parse line)

end World

end Parlor
