import Parlor.Map.Sorted

namespace Parlor

inductive Effect where
  | light
  | consume
  | none
deriving DecidableEq, Repr

abbrev Effects := SortedMap Effect

namespace Effects

def builtIn : Effects := SortedMap.empty.insert "torch" .light

def effectOf (effects : Effects) (item : String) : Effect := (effects.get? item).getD .none

def extend (effects : Effects) (given : SortedMap Effect) : Effects :=
  given.entries.foldl (fun effects entry => effects.insert entry.1 entry.2) effects

end Effects

end Parlor
