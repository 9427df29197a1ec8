import Parlor.Map.Ordered
import Parlor.Map.Sorted
import Parlor.World.Effect

namespace Parlor

structure RoomDefinition where
  description : String
  exits : OrderedMap String
  items : List String
deriving DecidableEq

structure GameDefinition where
  startRoom : String
  rooms : SortedMap RoomDefinition
  effects : SortedMap Effect
deriving DecidableEq

end Parlor
