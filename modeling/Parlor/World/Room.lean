import Parlor.Map.Ordered
import Parlor.World.Holder

namespace Parlor

structure Room where
  id : String
  description : String
  exits : OrderedMap String
  items : List String
deriving DecidableEq

namespace Room

instance : ItemHolder Room where
  items := items
  withItems room items := { room with items }

def new (id description : String) : Room := ⟨id, description, .empty, []⟩

def withExit (room : Room) (direction target : String) : Room :=
  { room with exits := room.exits.insert direction target }

def exitTo? (room : Room) (direction : String) : Option String := room.exits.get? direction

def agrees (room other : Room) : Bool :=
  room.id = other.id && room.description = other.description && room.exits.agrees other.exits &&
    room.items = other.items

def itemsText (items : List String) : String :=
  if items.isEmpty then "\nYou see nothing of interest."
  else "\nYou see:" ++ String.join (items.map ("\n  - " ++ ·))

def exitsText (directions : List String) : String :=
  "\nExits:" ++
    if directions.isEmpty then " None" else String.join (directions.map (" " ++ ·))

def describe (room : Room) : String :=
  room.description ++ itemsText room.items ++ exitsText room.exits.keys

end Room

end Parlor
