namespace Parlor

class ItemHolder (σ : Type) where
  items : σ → List String
  withItems : σ → List String → σ

namespace ItemHolder

variable {σ : Type} [ItemHolder σ]

def add (holder : σ) (item : String) : σ := withItems holder (items holder ++ [item])

def holds (holder : σ) (item : String) : Bool := item ∈ items holder

def remove (holder : σ) (item : String) : Bool × σ :=
  if item ∈ items holder then (true, withItems holder ((items holder).erase item))
  else (false, holder)

end ItemHolder

end Parlor
