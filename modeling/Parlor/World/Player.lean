import Parlor.World.Holder

namespace Parlor

structure Player where
  location : String
  inventory : List String
deriving DecidableEq

namespace Player

instance : ItemHolder Player where
  items := inventory
  withItems player inventory := { player with inventory }

def new (location : String) : Player := ⟨location, []⟩

def inventoryText (player : Player) : String :=
  "Inventory: " ++
    if player.inventory.isEmpty then "(empty)" else String.intercalate ", " player.inventory

end Player

end Parlor
