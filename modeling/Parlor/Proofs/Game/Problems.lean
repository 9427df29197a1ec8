import Parlor.Game.Loading
import Parlor.Proofs.Game.Validity

namespace Parlor.GameDefinition

variable {game : GameDefinition} {id : String} {room : RoomDefinition}

def Dangles (game : GameDefinition) (id direction target : String) : Prop :=
  ∃ room, game.rooms.get? id = some room ∧ room.exits.get? direction = some target ∧
    game.rooms.get? target = none

/-- The exit of one problem comes before that of another: in a room that comes before, or earlier
among the exits of the same room. -/
def Precedes (game : GameDefinition) : Problem → Problem → Prop
  | .exitMissing id direction _, .exitMissing id' direction' _ =>
    id < id' ∨ id = id' ∧ ∃ room, game.rooms.get? id = some room ∧
      room.exits.keys.idxOf direction < room.exits.keys.idxOf direction'
  | _, _ => False

structure ListsExits (game : GameDefinition) (found : List Problem) : Prop where
  mem_iff : ∀ problem, problem ∈ found ↔
    ∃ id direction target, problem = .exitMissing id direction target ∧
      game.Dangles id direction target
  ordered : found.Pairwise game.Precedes

theorem Precedes.asymm {problem other : Problem} (before : game.Precedes problem other) :
    ¬ game.Precedes other problem := by
  cases problem with
  | exitMissing id direction target =>
    cases other with
    | exitMissing id' direction' target' =>
      rintro (after | ⟨same, room, found, after⟩)
      · rcases before with before | ⟨rfl, -⟩
        · exact String.lt_irrefl _ (String.lt_trans before after)
        · exact String.lt_irrefl _ after
      · subst same
        rcases before with before | ⟨-, room', found', before⟩
        · exact String.lt_irrefl _ before
        · rw [found] at found'
          cases found'
          omega
    | _ => exact before.elim
  | _ => exact before.elim

theorem ListsExits.nodup {found : List Problem} (lists : game.ListsExits found) :
    found.Nodup := by
  refine lists.ordered.imp ?_
  rintro problem _ before rfl
  exact before.asymm before

theorem ListsExits.unique {found other : List Problem} (lists : game.ListsExits found)
    (lists' : game.ListsExits other) : found = other := by
  have perm : found.Perm other := by
    rw [List.perm_ext_iff_of_nodup lists.nodup lists'.nodup]
    exact fun problem => (lists.mem_iff problem).trans (lists'.mem_iff problem).symm
  exact perm.eq_of_pairwise (fun _ _ _ _ before after => absurd after before.asymm)
    lists.ordered lists'.ordered

theorem mem_exitProblems_iff {problem : Problem} :
    problem ∈ game.exitProblems id room ↔
      ∃ direction target, problem = .exitMissing id direction target ∧
        room.exits.get? direction = some target ∧ game.rooms.get? target = none := by
  rw [exitProblems, List.mem_filterMap]
  constructor
  · rintro ⟨⟨direction, target⟩, member, reported⟩
    cases there : game.rooms.get? target with
    | some room => simp [SortedMap.contains, there] at reported
    | none =>
      simp only [SortedMap.contains, there] at reported
      cases reported
      exact ⟨direction, target, rfl, OrderedMap.get?_eq_some_iff.2 member, there⟩
  · rintro ⟨direction, target, rfl, leads, nowhere⟩
    refine ⟨(direction, target), OrderedMap.get?_eq_some_iff.1 leads, ?_⟩
    simp [SortedMap.contains, nowhere]

theorem pairwise_keys (exits : OrderedMap String) :
    exits.keys.Pairwise fun direction other =>
      exits.keys.idxOf direction < exits.keys.idxOf other := by
  have distinct : exits.keys.Nodup := exits.distinct
  rw [List.pairwise_iff_getElem]
  intro place further bound bound' before
  rwa [distinct.idxOf_getElem, distinct.idxOf_getElem]

theorem pairwise_exitProblems (found : game.rooms.get? id = some room) :
    (game.exitProblems id room).Pairwise game.Precedes := by
  have directions : room.exits.entries.Pairwise fun exit other =>
      room.exits.keys.idxOf exit.1 < room.exits.keys.idxOf other.1 := by
    have keys := pairwise_keys room.exits
    rwa [OrderedMap.keys, List.pairwise_map] at keys
  have reports {exit : String × String} {problem : Problem}
      (reported : (if game.rooms.contains exit.2 then none
        else some (Problem.exitMissing id exit.1 exit.2)) = some problem) :
      problem = .exitMissing id exit.1 exit.2 := by
    split at reported
    · cases reported
    · cases reported
      rfl
  refine directions.filterMap _ ?_
  intro exit other before problem reported problem' reported'
  obtain rfl := reports reported
  obtain rfl := reports reported'
  exact .inr ⟨rfl, room, found, before⟩

theorem listsExits_flatMap (game : GameDefinition) :
    game.ListsExits (game.rooms.entries.flatMap fun (id, room) => game.exitProblems id room) := by
  constructor
  · intro problem
    rw [List.mem_flatMap]
    constructor
    · rintro ⟨⟨id, room⟩, member, reported⟩
      obtain ⟨direction, target, rfl, leads, nowhere⟩ := mem_exitProblems_iff.1 reported
      exact ⟨id, direction, target, rfl, room, SortedMap.get?_eq_some_iff.2 member, leads, nowhere⟩
    · rintro ⟨id, direction, target, rfl, room, found, leads, nowhere⟩
      refine ⟨(id, room), SortedMap.get?_eq_some_iff.1 found, ?_⟩
      exact mem_exitProblems_iff.2 ⟨direction, target, rfl, leads, nowhere⟩
  · rw [List.pairwise_flatMap]
    constructor
    · rintro ⟨id, room⟩ member
      exact pairwise_exitProblems (SortedMap.get?_eq_some_iff.2 member)
    · refine game.rooms.increasing.imp ?_
      rintro ⟨id, room⟩ ⟨id', room'⟩ before problem reported problem' reported'
      obtain ⟨direction, target, rfl, -⟩ := mem_exitProblems_iff.1 reported
      obtain ⟨direction', target', rfl, -⟩ := mem_exitProblems_iff.1 reported'
      exact .inl before

theorem message_exitMissing (id direction target : String) :
    (Problem.exitMissing id direction target).message =
      "missing room '" ++ target ++ "' (exit '" ++ direction ++ "' from room '" ++ id ++ "')" := by
  simp [← String.toList_inj, Problem.message, Problem.missingRoom?, Problem.context]

theorem append_join_message (header : String) (problems : List Problem) :
    header ++ String.join (problems.map fun problem => "\n- " ++ problem.message) =
      "\n".intercalate (header :: problems.map fun problem => "- " ++ problem.message) := by
  induction problems generalizing header with
  | nil => simp
  | cons problem problems ih =>
    have opened : "\n- " ++ problem.message = "\n" ++ ("- " ++ problem.message) := by
      rw [← String.append_assoc]
      rfl
    rw [List.map_cons, List.map_cons, String.intercalate_cons_cons, ← ih, String.join_cons, opened]
    simp only [String.append_assoc]

theorem message_invalid (problems : List Problem) :
    (LoadError.invalid problems).message =
      "\n".intercalate ("game definition validation failed:" ::
        problems.map fun problem => "- " ++ problem.message) :=
  append_join_message _ problems

theorem start_eq_ok_iff {world : World} :
    Game.start game = .ok world ↔ game.Valid ∧ game.world = world := by
  rw [Game.start, build, ← problems_eq_nil_iff, ← List.isEmpty_iff]
  by_cases sound : game.problems.isEmpty = true
  · simp [sound]
  · simp [sound]

theorem start_eq_error (invalid : ¬ game.Valid) :
    Game.start game = .error (.invalid game.problems) := by
  rw [← problems_eq_nil_iff, ← List.isEmpty_iff] at invalid
  rw [Game.start, build, if_neg invalid]

/-- A game is started just when it is valid. The problems of any game are at most one with its start
room and then its exits that lead nowhere, and a game that is refused is refused with these, a line
for each. -/
theorem start_reports (game : GameDefinition) :
    ((∃ world, Game.start game = .ok world) ↔ game.Valid) ∧
      (¬ game.Valid → Game.start game = .error (.invalid game.problems)) ∧
      (∃ first exits, game.problems = first ++ exits ∧
        ((∀ c ∈ game.startRoom.toList, Text.isSpace c = true) → first = [.startRoomBlank]) ∧
        ((∃ c ∈ game.startRoom.toList, Text.isSpace c = false) →
          game.rooms.get? game.startRoom = none → first = [.startRoomMissing game.startRoom]) ∧
        ((∃ c ∈ game.startRoom.toList, Text.isSpace c = false) →
          (∃ room, game.rooms.get? game.startRoom = some room) → first = []) ∧
        ∀ found, game.ListsExits found ↔ found = exits) ∧
      (LoadError.invalid game.problems).message =
        "\n".intercalate ("game definition validation failed:" ::
          game.problems.map fun problem => "- " ++ problem.message) ∧
      Problem.startRoomBlank.message = "invalid value (start room missing)" ∧
      (∀ id, (Problem.startRoomMissing id).message = "missing room '" ++ id ++ "' (start room)") ∧
      ∀ id direction target, (Problem.exitMissing id direction target).message =
        "missing room '" ++ target ++ "' (exit '" ++ direction ++ "' from room '" ++ id ++ "')" := by
  refine ⟨?_, start_eq_error, ⟨_, _, rfl, ?_, ?_, ?_, ?_⟩, message_invalid _, rfl, ?_,
    message_exitMissing⟩
  · simp [start_eq_ok_iff]
  · intro blank
    rw [startProblems, if_pos (Text.isBlank_iff.2 blank)]
  · intro named missing
    simp [startProblems, Text.isBlank_eq_false_iff.2 named, SortedMap.contains, missing]
  · rintro named ⟨room, found⟩
    simp [startProblems, Text.isBlank_eq_false_iff.2 named, SortedMap.contains, found]
  · intro found
    constructor
    · exact fun lists => lists.unique game.listsExits_flatMap
    · rintro rfl
      exact game.listsExits_flatMap
  · simp [Problem.message, Problem.missingRoom?, Problem.context, String.append_assoc]

example :
    (GameDefinition.mk " "
      (.ofList [(" ", ⟨"Nowhere.", .ofList [("up", "sky"), ("out", "sky")], []⟩)])
      .empty).problems =
        [.startRoomBlank, .exitMissing " " "up" "sky", .exitMissing " " "out" "sky"] := by
  decide

end Parlor.GameDefinition
