import Parlor.Proofs.World.Footing
import Mathlib.Data.List.Induction

namespace Parlor.World

structure Event where
  before : World
  command : Command
  turn : Turn

def history (help : List HelpEntry) (world : World) : List String → List Event
  | [] => []
  | line :: lines =>
    let turn := world.answer help line
    ⟨world, Command.parse line, turn⟩ :: history help turn.world lines

theorem after_snoc (help : List HelpEntry) (world : World) (lines : List String) (line : String) :
    world.after help (lines ++ [line]) = ((world.after help lines).answer help line).world :=
  List.foldl_append

theorem history_snoc (help : List HelpEntry) (world : World) (lines : List String)
    (line : String) :
    history help world (lines ++ [line]) = history help world lines ++
      [⟨world.after help lines, .parse line, (world.after help lines).answer help line⟩] := by
  induction lines generalizing world with
  | nil => rfl
  | cons first lines ih => exact congrArg (List.cons _) (ih (world.answer help first).world)

theorem history_induction {help : List HelpEntry} {world : World} (footing : world.Footing)
    (invariant : List Event → World → Prop) (start : invariant [] world)
    (kept : ∀ past event, event.before.Footing →
      Comes help event.before event.command event.turn → invariant past event.before →
      invariant (past ++ [event]) event.turn.world)
    (lines : List String) : invariant (history help world lines) (world.after help lines) := by
  induction lines using List.reverseRecOn with
  | nil => exact start
  | append_singleton lines line ih =>
    rw [history_snoc, after_snoc]
    exact kept _ _ (footing.after help lines) (comes_perform help _ (.parse line)) ih

def feastGame : GameDefinition where
  startRoom := "hall"
  rooms := .ofList
    [("cellar", ⟨"A cold cellar.", .ofList [("up", "hall")], ["bread", "torch"]⟩),
      ("hall", ⟨"A long table.", .ofList [("down", "cellar")], ["bread", "salt", "bread"]⟩)]
  effects := .ofList [("bread", .consume), ("torch_lit", .light)]

theorem begins_feastGame : Begins feastGame.world := .built (if_pos (by decide))

end Parlor.World
