import Parlor.Proofs.Command.Names
import Parlor.Proofs.World.Footing

namespace Parlor.World

open Command

variable {help : List HelpEntry} {world : World} {room : Room}

def Leads (help : List HelpEntry) (world : World) (line target : String) : Prop :=
  ∃ text, world.answer help line = ⟨.ok text, world.setLocation target⟩

def Brings (help : List HelpEntry) (world : World) (room : Room) (line item : String) : Prop :=
  ∃ text, world.answer help line = ⟨.ok text, world.taken room item⟩

theorem setLocation_inj {target other : String} :
    world.setLocation target = world.setLocation other ↔ target = other :=
  ⟨fun same => congrArg location same, congrArg _⟩

theorem taken_inj {item other : String} :
    world.taken room item = world.taken room other ↔ item = other := by
  refine ⟨?_, congrArg _⟩
  intro same
  have carried := congrArg (fun world => world.player.inventory) same
  exact List.singleton_inj.1 (List.append_cancel_left carried)

theorem leads_go_iff (footing : world.Footing) (here : world.currentRoom = .ok room)
    {name : String} (visible : NotBlank name) (target : String) :
    Leads help world ("go " ++ name) target ↔ room.exitTo? (heard name) = some target := by
  have standing := currentRoom_eq_ok_iff.1 here
  have comes := comes_move help world (heard name)
  rw [Leads, answer, parse_go visible, perform]
  generalize world.move (heard name) = turn at comes
  cases comes with
  | moved also leads arrival =>
    rw [standing] at also
    cases also
    simp only [leads, Turn.mk.injEq, Except.ok.injEq, exists_and_right, exists_eq', true_and,
      setLocation_inj, Option.some.injEq]
  | noExit also closed =>
    rw [standing] at also
    cases also
    simp [closed]
  | noTarget also leads missing =>
    obtain ⟨there, arrival⟩ := footing.exits _ _ also _ _ leads
    rw [missing] at arrival
    cases arrival
  | nowhere needs missing =>
    rw [missing] at standing
    cases standing

theorem brings_take_iff (here : world.currentRoom = .ok room) {name : String}
    (visible : NotBlank name) (item : String) :
    Brings help world room ("take " ++ name) item ↔ heard name = item := by
  have standing := currentRoom_eq_ok_iff.1 here
  have comes := comes_take help world (heard name)
  rw [Brings, answer, parse_take visible, perform]
  generalize world.take (heard name) = turn at comes
  cases comes with
  | took also =>
    rw [standing] at also
    cases also
    simp only [Turn.mk.injEq, Except.ok.injEq, exists_and_right, exists_eq', true_and, taken_inj]
  | nowhere needs missing =>
    rw [missing] at standing
    cases standing

/-- In every state of a game, a shown exit is taken by its name just when the name as a line gives
it is that of an exit to the same room, and a shown item just when a line gives its very name. -/
theorem typed_after (begins : Begins world) (help : List HelpEntry) (lines : List String)
    (here : (world.after help lines).currentRoom = .ok room) :
    (∀ direction target, room.exitTo? direction = some target → NotBlank direction →
        (Leads help (world.after help lines) ("go " ++ direction) target ↔
          room.exitTo? (heard direction) = some target)) ∧
      ∀ item ∈ room.items, NotBlank item →
        (Brings help (world.after help lines) room ("take " ++ item) item ↔ heard item = item) := by
  have footing : (world.after help lines).Footing := begins.footing.after help lines
  refine ⟨?_, ?_⟩
  · intro direction target _ visible
    exact leads_go_iff footing here visible target
  · intro item _ visible
    exact brings_take_iff here visible item

def capitalGame : GameDefinition where
  startRoom := "hut"
  rooms := .ofList
    [("hut", ⟨"A hut.", .ofList [("North", "yard"), ("way out", "yard")], ["Lamp", "old key"]⟩),
      ("yard", ⟨"A yard.", .empty, []⟩)]
  effects := .empty

def hut : Room :=
  ⟨"hut", "A hut.", .ofList [("North", "yard"), ("way out", "yard")], ["Lamp", "old key"]⟩

theorem begins_capitalGame : Begins capitalGame.world := .built (if_pos (by decide))

theorem typed_after_capitals :
    Begins capitalGame.world ∧
      (capitalGame.world.after [] []).currentRoom = .ok hut ∧
      (hut.exitTo? "way out" = some "yard" ∧ NotBlank "way out" ∧
        (Leads [] (capitalGame.world.after [] []) "go way out" "yard" ↔
          hut.exitTo? (heard "way out") = some "yard")) ∧
      ("Lamp" ∈ hut.items ∧ NotBlank "Lamp" ∧
        (Brings [] (capitalGame.world.after [] []) hut "take Lamp" "Lamp" ↔
          heard "Lamp" = "Lamp")) := by
  have here : (capitalGame.world.after [] []).currentRoom = .ok hut := rfl
  have leads : hut.exitTo? "way out" = some "yard" := by decide
  have visibleWay : NotBlank "way out" := ⟨'w', by decide, by decide⟩
  have lies : "Lamp" ∈ hut.items := by decide
  have visibleLamp : NotBlank "Lamp" := ⟨'L', by decide, by decide⟩
  obtain ⟨ways, things⟩ := typed_after begins_capitalGame [] [] here
  have way := ways "way out" "yard" leads visibleWay
  have thing := things "Lamp" lies visibleLamp
  exact ⟨begins_capitalGame, here, ⟨leads, visibleWay, way⟩, lies, visibleLamp, thing⟩

theorem capitals_not_typed :
    capitalGame.build = .ok capitalGame.world ∧ capitalGame.world.currentRoom = .ok hut ∧
      (hut.exitTo? "North" = some "yard" ∧ NotBlank "North" ∧
        capitalGame.world.answer [] "go North" =
          ⟨.error (.unknownExit "north" "hut"), capitalGame.world⟩ ∧
        ¬ Leads [] capitalGame.world "go North" "yard") ∧
      ("Lamp" ∈ hut.items ∧ NotBlank "Lamp" ∧
        (capitalGame.world.answer [] "take Lamp").world.player.inventory = ["lamp"] ∧
        ¬ Brings [] capitalGame.world hut "take Lamp" "Lamp") := by
  have refused : capitalGame.world.answer [] "go North" =
      ⟨.error (.unknownExit "north" "hut"), capitalGame.world⟩ := by rfl
  have carried : (capitalGame.world.answer [] "take Lamp").world.player.inventory = ["lamp"] := by
    decide +kernel
  refine ⟨if_pos (by decide), rfl, ⟨by decide, ⟨'N', by decide, by decide⟩, refused, ?_⟩,
    by decide, ⟨'L', by decide, by decide⟩, carried, ?_⟩
  · rintro ⟨text, led⟩
    rw [refused] at led
    cases congrArg Turn.reply led
  · rintro ⟨text, brought⟩
    have other := congrArg (fun turn => turn.world.player.inventory) brought
    rw [carried] at other
    have same : "lamp" = "Lamp" := List.singleton_inj.1 other
    exact absurd same (by decide)

end Parlor.World
