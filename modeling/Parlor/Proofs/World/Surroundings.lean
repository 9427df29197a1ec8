import Parlor.Proofs.World.Flags

namespace Parlor

def Command.isQuiet : Command → Bool
  | .moveTo _ => false
  | .take _ => false
  | _ => true

namespace World

variable {help : List HelpEntry} {world : World} {command : Command} {turn : Turn}

theorem Comes.surroundings_eq (comes : Comes help world command turn)
    (quiet : command.isQuiet = true) : turn.world.surroundings = world.surroundings := by
  cases comes with
  | moved | took => cases quiet
  | _ => rfl

def obey (help : List HelpEntry) (world : World) (commands : List Command) : World :=
  commands.foldl (fun world command => (world.perform help command).world) world

theorem surroundings_obey {commands : List Command}
    (quiet : ∀ command ∈ commands, command.isQuiet = true) :
    (world.obey help commands).surroundings = world.surroundings := by
  induction commands generalizing world with
  | nil => rfl
  | cons command commands ih =>
    obtain ⟨first, later⟩ := List.forall_mem_cons.1 quiet
    exact (ih later).trans ((comes_perform help world command).surroundings_eq first)

/-- Looking shows the view, at once and behind any commands other than moves and takes. -/
def Shows (help : List HelpEntry) (world : World) (view : String) : Prop :=
  ∀ commands, (∀ command ∈ commands, command.isQuiet = true) →
    (world.obey help commands).look.reply = .ok view

theorem shows_of_located {room : Room} (here : world.rooms.get? world.location = some room) :
    Shows help world room.describe := by
  intro commands quiet
  exact (surroundings_obey quiet).trans (surroundings_of_located here)

theorem Comes.shows_of_moved {direction text : String}
    (comes : Comes help world (.moveTo direction) turn) (moved : turn.reply = .ok text) :
    ∃ view, text = "You move " ++ direction ++ ".\n" ++ view ∧ Shows help turn.world view := by
  cases comes with
  | moved here leads arrival =>
    cases moved
    exact ⟨_, rfl, shows_of_located arrival⟩
  | nowhere | noExit | noTarget => cases moved

theorem Comes.shows_of_lit {item : String} (comes : Comes help world (.useItem item) turn)
    (unlit : world.flag (litFlag item) = false) (lit : turn.world.flag (litFlag item) = true) :
    ∃ view, turn.reply = .ok ("You light the " ++ item ++ ". The " ++ turn.world.location ++
        " is now illuminated!\n" ++ view) ∧ Shows help turn.world view := by
  cases comes with
  | lit effect dark here => exact ⟨_, rfl, shows_of_located here⟩
  | consumed effect carried =>
    have same := flag_insert_of_ne (litFlag_ne_consumedFlag item item) world true
    rw [← same] at unlit
    cases unlit.symm.trans lit
  | _ => cases unlit.symm.trans lit

/-- What an answer to a move or to the lighting of an item says of the surroundings is what looking
shows afterwards. -/
theorem surroundings_shown (help : List HelpEntry) (world : World) :
    (∀ direction text, (world.move direction).reply = .ok text →
        ∃ view, text = "You move " ++ direction ++ ".\n" ++ view ∧
          Shows help (world.move direction).world view) ∧
      ∀ item, world.flag (litFlag item) = false →
        (world.useItem item).world.flag (litFlag item) = true →
        ∃ view, (world.useItem item).reply =
            .ok ("You light the " ++ item ++ ". The " ++ (world.useItem item).world.location ++
              " is now illuminated!\n" ++ view) ∧
          Shows help (world.useItem item).world view := by
  refine ⟨?_, ?_⟩
  · intro direction text moved
    exact (comes_move help world direction).shows_of_moved moved
  · intro item unlit lit
    exact (comes_useItem help world item).shows_of_lit unlit lit

def crypt : World where
  rooms := .ofList
    [("crypt", ⟨"tomb", "Damp.", .ofList [("down", "pit"), ("round", "crypt")], ["torch"]⟩)]
  player := .new "crypt"
  flags := .ofList [("torch_lit", false)]
  effects := .builtIn

theorem surroundings_shown_crypt :
    ((crypt.move "round").reply =
        .ok "You move round.\nDamp.\nYou see:\n  - torch\nExits: down round" ∧
      ∃ view, "You move round.\nDamp.\nYou see:\n  - torch\nExits: down round" =
          "You move " ++ "round" ++ ".\n" ++ view ∧ Shows [] (crypt.move "round").world view) ∧
    (crypt.flag (litFlag "torch") = false ∧
      (crypt.useItem "torch").world.flag (litFlag "torch") = true ∧
      ∃ view, (crypt.useItem "torch").reply =
          .ok ("You light the " ++ "torch" ++ ". The " ++ (crypt.useItem "torch").world.location ++
            " is now illuminated!\n" ++ view) ∧
        Shows [] (crypt.useItem "torch").world view) := by
  have moved : (crypt.move "round").reply =
      .ok "You move round.\nDamp.\nYou see:\n  - torch\nExits: down round" := by rfl
  have unlit : crypt.flag (litFlag "torch") = false := by decide
  have lit : (crypt.useItem "torch").world.flag (litFlag "torch") = true := by decide
  obtain ⟨ways, uses⟩ := surroundings_shown [] crypt
  exact ⟨⟨moved, ways _ _ moved⟩, unlit, lit, uses _ unlit lit⟩

end World

end Parlor
