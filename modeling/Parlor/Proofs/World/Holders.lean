import Parlor.World.Player
import Parlor.World.Room

namespace Parlor.ItemHolder

inductive Change where
  | add (item : String)
  | remove (item : String)
deriving DecidableEq

/-- What a change is answered, and what it makes of some items. Only a removal has an answer. -/
inductive Makes : List String → Change → Option Bool → List String → Prop
  | added {items item} : Makes items (.add item) none (items ++ [item])
  | removed {before after item} (earliest : item ∉ before) :
      Makes (before ++ item :: after) (.remove item) (some true) (before ++ after)
  | missing {items item} (absent : item ∉ items) : Makes items (.remove item) (some false) items

inductive MakesAll : List String → List Change → List (Option Bool) → List String → Prop
  | nil {items} : MakesAll items [] [] items
  | cons {items change answer between changes answers last}
      (first : Makes items change answer between) (later : MakesAll between changes answers last) :
      MakesAll items (change :: changes) (answer :: answers) last

theorem exists_makes (items : List String) (change : Change) :
    ∃ answer left, Makes items change answer left := by
  cases change with
  | add item => exact ⟨_, _, .added⟩
  | remove item =>
    by_cases held : item ∈ items
    · obtain ⟨before, after, rfl, earliest⟩ := List.eq_append_cons_of_mem held
      exact ⟨_, _, .removed earliest⟩
    · exact ⟨_, _, .missing held⟩

theorem exists_makesAll (items : List String) (changes : List Change) :
    ∃ answers last, MakesAll items changes answers last := by
  induction changes generalizing items with
  | nil => exact ⟨_, _, .nil⟩
  | cons change changes ih =>
    obtain ⟨answer, between, first⟩ := exists_makes items change
    obtain ⟨answers, last, later⟩ := ih between
    exact ⟨_, _, .cons first later⟩

theorem Makes.count {items left : List String} {change : Change} {answer : Option Bool}
    (makes : Makes items change answer left) (item : String) :
    left.count item + [(change, answer)].count (.remove item, some true) =
      items.count item + [change].count (.add item) := by
  cases makes with
  | added => simp [List.count_singleton]
  | removed earliest =>
    rw [List.perm_middle.count_eq]
    simp [List.count_cons]
  | missing absent => simp

theorem MakesAll.count {items last : List String} {changes : List Change}
    {answers : List (Option Bool)} (makes : MakesAll items changes answers last) (item : String) :
    last.count item + (changes.zip answers).count (.remove item, some true) =
      items.count item + changes.count (.add item) := by
  induction makes with
  | nil => rfl
  | @cons items change answer between changes answers last first later ih =>
    have here := first.count item
    rw [List.zip_cons_cons, ← List.singleton_append, ← List.singleton_append (l := changes),
      List.count_append, List.count_append]
    omega

/-- Giving a holder other items changes its items and nothing else. -/
class LawfulItemHolder (σ : Type) [ItemHolder σ] : Prop where
  items_withItems (holder : σ) (list : List String) : items (withItems holder list) = list
  withItems_withItems (holder : σ) (list further : List String) :
    withItems (withItems holder list) further = withItems holder further

open LawfulItemHolder

instance : LawfulItemHolder Room where
  items_withItems _ _ := rfl
  withItems_withItems _ _ _ := rfl

instance : LawfulItemHolder Player where
  items_withItems _ _ := rfl
  withItems_withItems _ _ _ := rfl

variable {σ : Type} [ItemHolder σ]

def make (holder : σ) : Change → Option Bool × σ
  | .add item => (none, add holder item)
  | .remove item =>
    let (found, left) := remove holder item
    (some found, left)

def makeAll (holder : σ) : List Change → List (Option Bool) × σ
  | [] => ([], holder)
  | change :: changes =>
    let (answer, next) := make holder change
    let (answers, last) := makeAll next changes
    (answer :: answers, last)

variable [LawfulItemHolder σ]

theorem make_eq {items left : List String} {change : Change} {answer : Option Bool}
    (makes : Makes items change answer left) (holder : σ) :
    make (withItems holder items) change = (answer, withItems holder left) := by
  cases makes with
  | added => simp only [make, add, items_withItems, withItems_withItems]
  | @removed before after item earliest =>
    have held : item ∈ before ++ item :: after := by simp
    have erased : (before ++ item :: after).erase item = before ++ after := by
      rw [List.erase_append_right _ earliest, List.erase_cons_head]
    simp only [make, remove, items_withItems, if_pos held, withItems_withItems, erased]
  | missing absent => simp only [make, remove, items_withItems, if_neg absent]

theorem makeAll_eq {items last : List String} {changes : List Change}
    {answers : List (Option Bool)} (makes : MakesAll items changes answers last) (holder : σ) :
    makeAll (withItems holder items) changes = (answers, withItems holder last) := by
  induction makes with
  | nil => rfl
  | cons first later ih => simp only [makeAll, make_eq first, ih]

theorem holds_withItems_iff (holder : σ) (list : List String) (item : String) :
    holds (withItems holder list) item = true ↔ 0 < list.count item := by
  rw [holds, items_withItems, decide_eq_true_iff, List.count_pos_iff]

/-- A room and a player with the same items answer any changes alike and are left with the same
items and all else as it was. What an answer is and which copy goes is said by `Makes`. -/
theorem room_player_alike (items : List String) (room : Room) (player : Player)
    (changes : List Change) :
    ∃ answers last, MakesAll items changes answers last ∧
      makeAll { room with items } changes = (answers, { room with items := last }) ∧
      makeAll { player with inventory := items } changes =
        (answers, { player with inventory := last }) ∧
      ∀ item,
        last.count item + (changes.zip answers).count (.remove item, some true) =
          items.count item + changes.count (.add item) ∧
        (holds { room with items := last } item = true ↔ 0 < last.count item) ∧
        (holds { player with inventory := last } item = true ↔ 0 < last.count item) := by
  obtain ⟨answers, last, makes⟩ := exists_makesAll items changes
  refine ⟨answers, last, makes, makeAll_eq makes room, makeAll_eq makes player, ?_⟩
  intro item
  exact ⟨makes.count item, holds_withItems_iff room last item, holds_withItems_iff player last item⟩

example : makeAll (Room.new "shed" "A shed.")
    [.add "nail", .add "saw", .add "nail", .remove "nail", .remove "rope"] =
      ([none, none, none, some true, some false],
        { Room.new "shed" "A shed." with items := ["saw", "nail"] }) := by decide

end Parlor.ItemHolder
