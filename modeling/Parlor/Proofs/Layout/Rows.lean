import Parlor.Layout.Paragraph
import Mathlib.Tactic.Linarith

namespace Parlor.Layout

def Fragment.fullWidth (fragment : Fragment) : Nat := fragment.width + fragment.spaces

def rowWidth : List Fragment → Nat
  | [] => 0
  | [fragment] => fragment.width
  | fragment :: rest => fragment.fullWidth + rowWidth rest

def overflowCost (target used : Nat) : Nat := (used - target) * 2500

def gapCost (target used : Nat) : Nat :=
  if target < used then overflowCost target used else (target - used) * (target - used)

def endCost (width : Nat) (isLast single : Bool) (used : Nat) : Nat :=
  let target := max width 1
  1000 +
    if isLast then
      overflowCost target used + if single && used * 4 < target then 25 else 0
    else gapCost target used

def rowCost (width : Nat) (isLast : Bool) (row : List Fragment) : Nat :=
  endCost width isLast (row.length = 1) (rowWidth row)

def rowsCost (width : Nat) : List (List Fragment) → Nat
  | [] => 0
  | [row] => rowCost width true row
  | row :: rows => rowCost width false row + rowsCost width rows

/-- Of all ways to set some fragments in rows, none costs less than this one. -/
structure BestRows (width : Nat) (fragments : List Fragment) (rows : List (List Fragment)) :
    Prop where
  spelled : rows.flatten = fragments
  filled : ∀ row ∈ rows, row ≠ []
  least : ∀ other : List (List Fragment), other.flatten = fragments → (∀ row ∈ other, row ≠ []) →
    rowsCost width rows ≤ rowsCost width other

def totalWidth (row : List Fragment) : Nat := (row.map Fragment.fullWidth).sum

theorem rowWidth_snoc (row : List Fragment) (fragment : Fragment) :
    rowWidth (row ++ [fragment]) = totalWidth row + fragment.width := by
  induction row with
  | nil => simp [rowWidth, totalWidth]
  | cons first row ih =>
    have rest : rowWidth (first :: (row ++ [fragment])) =
        first.fullWidth + rowWidth (row ++ [fragment]) := by
      cases row <;> rfl
    rw [List.cons_append, rest, ih, totalWidth, totalWidth, List.map_cons, List.sum_cons,
      Nat.add_assoc]

theorem rowsCost_snoc (width : Nat) (rows : List (List Fragment)) (row : List Fragment) :
    rowsCost width (rows ++ [row]) =
      (rows.map (rowCost width false)).sum + rowCost width true row := by
  induction rows with
  | nil => simp [rowsCost]
  | cons first rows ih =>
    have rest : rowsCost width (first :: (rows ++ [row])) =
        rowCost width false first + rowsCost width (rows ++ [row]) := by
      cases rows <;> rfl
    rw [List.cons_append, rest, ih, List.map_cons, List.sum_cons, Nat.add_assoc]

theorem gapCost_of_le {target used : Nat} (full : target ≤ used) :
    gapCost target used = overflowCost target used := by
  rw [gapCost]
  split_ifs with overfull
  · rfl
  · obtain rfl : used = target := by omega
    simp [overflowCost]

theorem gapCost_of_add_eq {target used gap : Nat} (fits : used + gap = target) :
    gapCost target used = gap * gap := by
  rw [gapCost, if_neg (by omega), ← fits, Nat.add_sub_cancel_left]

theorem gapCost_le_of_le {target used more : Nat} (shorter : used ≤ more) (fits : more ≤ target) :
    gapCost target more ≤ gapCost target used := by
  obtain ⟨left, rfl⟩ := Nat.exists_eq_add_of_le shorter
  obtain ⟨gap, rfl⟩ := Nat.exists_eq_add_of_le fits
  rw [gapCost_of_add_eq rfl, gapCost_of_add_eq (Nat.add_assoc used left gap).symm]
  exact Nat.mul_le_mul (Nat.le_add_left _ _) (Nat.le_add_left _ _)

theorem gapCost_succ_le (target used : Nat) :
    gapCost target (used + 1) ≤ gapCost target used + 2500 := by
  by_cases fits : used + 1 ≤ target
  · have less := gapCost_le_of_le (Nat.le_add_right used 1) fits
    omega
  · rw [gapCost_of_le (by omega), gapCost_of_le (by omega), overflowCost, overflowCost]
    omega

/-- One more column costs a longer row at least as much as a shorter one. -/
theorem gapCost_convex_succ (target : Nat) {used more : Nat} (shorter : used ≤ more) :
    gapCost target more + gapCost target (used + 1) ≤
      gapCost target used + gapCost target (more + 1) := by
  by_cases fits : more + 1 ≤ target
  · obtain ⟨left, rfl⟩ := Nat.exists_eq_add_of_le shorter
    obtain ⟨gap, rfl⟩ := Nat.exists_eq_add_of_le fits
    have first : used + left + (gap + 1) = used + left + 1 + gap := by omega
    have second : used + 1 + (left + gap) = used + left + 1 + gap := by omega
    have third : used + (left + gap + 1) = used + left + 1 + gap := by omega
    -- Each gap shrinks by one column, and the square of the larger one by more.
    rw [gapCost_of_add_eq first, gapCost_of_add_eq second, gapCost_of_add_eq third,
      gapCost_of_add_eq rfl]
    nlinarith
  · -- The longer row overflows, and no column costs more than one that does.
    have step := gapCost_succ_le target used
    have full : target ≤ more := by omega
    rw [gapCost_of_le full, gapCost_of_le (Nat.le_succ_of_le full), overflowCost, overflowCost]
    omega

theorem gapCost_convex (target : Nat) {used more : Nat} (shorter : used ≤ more) (columns : Nat) :
    gapCost target more + gapCost target (used + columns) ≤
      gapCost target used + gapCost target (more + columns) := by
  induction columns with
  | zero => exact Nat.le_of_eq (Nat.add_comm _ _)
  | succ columns ih =>
    have step := gapCost_convex_succ target (Nat.add_le_add_right shorter columns)
    rw [← Nat.add_assoc, ← Nat.add_assoc]
    omega

theorem overflowCost_convex (target : Nat) {used more : Nat} (shorter : used ≤ more)
    (columns : Nat) :
    gapCost target more + overflowCost target (used + columns) ≤
      gapCost target used + overflowCost target (more + columns) := by
  by_cases fits : more ≤ target
  · have less := gapCost_le_of_le shorter fits
    simp only [overflowCost]
    omega
  · have full : target ≤ more := by omega
    rw [gapCost_of_le full]
    by_cases overfull : target ≤ used
    · rw [gapCost_of_le overfull]
      simp only [overflowCost]
      omega
    · simp only [overflowCost]
      omega

theorem endCost_add_le {width used more cost other : Nat} {single single' : Bool}
    (shorter : used ≤ more)
    (cheaper : cost + endCost width false single used ≤ other + endCost width false single' more)
    (isLast : Bool) (columns : Nat) :
    cost + endCost width isLast false (used + columns) ≤
      other + endCost width isLast false (more + columns) := by
  cases isLast with
  | true =>
    have convex := overflowCost_convex (max width 1) shorter columns
    simp only [endCost, Bool.false_and, Bool.false_eq_true, if_false, if_true] at cheaper ⊢
    omega
  | false =>
    have convex := gapCost_convex (max width 1) shorter columns
    simp only [endCost, Bool.false_eq_true, if_false] at cheaper ⊢
    omega

namespace Draft

variable {width : Nat}

def ofRows (width : Nat) (rows : List (List Fragment)) (row : List Fragment) : Draft :=
  ⟨(rows.map (rowCost width false)).sum, (rows.map List.reverse).reverse, row.reverse,
    totalWidth row⟩

def Of (width : Nat) (seen : List Fragment) (draft : Draft) : Prop :=
  ∃ rows row, draft = ofRows width rows row ∧ rows.flatten ++ row = seen ∧ ∀ row ∈ rows, row ≠ []

theorem extend_ofRows (rows : List (List Fragment)) (row : List Fragment) (fragment : Fragment) :
    (ofRows width rows row).extend fragment = ofRows width rows (row ++ [fragment]) := by
  simp [extend, ofRows, totalWidth, Fragment.fullWidth, Nat.add_assoc]

theorem closedCost_extend (draft : Draft) (isLast : Bool) (fragment : Fragment) :
    (draft.extend fragment).closedCost width isLast fragment =
      draft.cost + endCost width isLast draft.current.isEmpty (draft.width + fragment.width) := by
  have used : draft.width + fragment.width + fragment.spaces - fragment.spaces =
      draft.width + fragment.width := Nat.add_sub_cancel _ _
  simp only [closedCost, extend, used, List.length_cons, endCost, penalties]
  rw [Nat.add_assoc]
  congr 2
  cases isLast with
  | true =>
    by_cases overfull : max width 1 < draft.width + fragment.width
    · have long : ¬ (draft.width + fragment.width) * 4 < max width 1 := by omega
      simp [overfull, long, overflowCost]
    · have none : overflowCost (max width 1) (draft.width + fragment.width) = 0 := by
        rw [overflowCost, Nat.sub_eq_zero_of_le (Nat.le_of_not_lt overfull), Nat.zero_mul]
      simp [overfull, none]
  | false =>
    simp [gapCost, overflowCost]

theorem closedCost_ofRows (rows : List (List Fragment)) (row : List Fragment) (isLast : Bool)
    (fragment : Fragment) :
    (ofRows width rows (row ++ [fragment])).closedCost width isLast fragment =
      (rows.map (rowCost width false)).sum + rowCost width isLast (row ++ [fragment]) := by
  have single : decide ((row ++ [fragment]).length = 1) = row.reverse.isEmpty := by
    cases row <;> simp
  rw [← extend_ofRows, closedCost_extend, rowCost, rowWidth_snoc, single]
  rfl

structure Beats (width : Nat) (draft other : Draft) : Prop where
  same : draft.current.isEmpty = other.current.isEmpty
  le : ∀ isLast single columns, (single = true → draft.current.isEmpty = true) →
    draft.cost + endCost width isLast single (draft.width + columns) ≤
      other.cost + endCost width isLast single (other.width + columns)

theorem Beats.refl (draft : Draft) : draft.Beats width draft :=
  ⟨rfl, fun _ _ _ _ => Nat.le_refl _⟩

theorem Beats.trans {draft other third : Draft} (beats : draft.Beats width other)
    (beats' : other.Beats width third) : draft.Beats width third :=
  ⟨beats.same.trans beats'.same, fun isLast single columns alone =>
    (beats.le isLast single columns alone).trans
      (beats'.le isLast single columns fun h => beats.same ▸ alone h)⟩

theorem Beats.closedCost_le {draft other : Draft} (beats : draft.Beats width other) (isLast : Bool)
    (fragment : Fragment) :
    (draft.extend fragment).closedCost width isLast fragment ≤
      (other.extend fragment).closedCost width isLast fragment := by
  rw [closedCost_extend, closedCost_extend, ← beats.same]
  exact beats.le isLast _ _ id

theorem Beats.extend {draft other : Draft} (beats : draft.Beats width other)
    (fragment : Fragment) : (draft.extend fragment).Beats width (other.extend fragment) := by
  refine ⟨rfl, ?_⟩
  intro isLast single columns alone
  obtain rfl : single = false := by simpa [Draft.extend] using alone
  have le := beats.le isLast false (fragment.width + fragment.spaces + columns) (by simp)
  simpa only [Draft.extend, Nat.add_assoc] using le

/-- A draft whose open row is shorter and which costs no more is better for good. -/
theorem beats_of_closedCost_le {draft other : Draft} {fragment : Fragment}
    (shorter : draft.width ≤ other.width)
    (cheaper : (draft.extend fragment).closedCost width false fragment ≤
      (other.extend fragment).closedCost width false fragment) :
    (draft.extend fragment).Beats width (other.extend fragment) := by
  refine ⟨rfl, ?_⟩
  intro isLast single columns alone
  obtain rfl : single = false := by simpa [Draft.extend] using alone
  rw [closedCost_extend, closedCost_extend] at cheaper
  have le := endCost_add_le (Nat.add_le_add_right shorter fragment.width) cheaper isLast
    (fragment.spaces + columns)
  simpa only [Draft.extend, Nat.add_assoc] using le

end Draft

theorem cheapest_eq_none_iff {cost : Draft → Nat} {drafts : List Draft} :
    cheapest cost drafts = none ↔ drafts = [] := by
  cases drafts with
  | nil => simp [cheapest]
  | cons first rest =>
    rw [cheapest]
    split
    · simp
    · split <;> simp

theorem exists_of_cheapest_eq_some {cost : Draft → Nat} {drafts later : List Draft} {best : Nat}
    {draft : Draft} (found : cheapest cost drafts = some (best, draft, later)) :
    best = cost draft ∧ (∀ other ∈ drafts, best ≤ cost other) ∧
      ∃ before, drafts = before ++ draft :: later := by
  induction drafts generalizing best draft later with
  | nil => cases found
  | cons first rest ih =>
    rw [cheapest] at found
    cases behind : cheapest cost rest with
    | none =>
      simp only [behind] at found
      cases found
      obtain rfl := cheapest_eq_none_iff.1 behind
      exact ⟨rfl, by simp, [], rfl⟩
    | some choice =>
      obtain ⟨least, other, after⟩ := choice
      obtain ⟨rfl, lower, before, rfl⟩ := ih behind
      simp only [behind] at found
      split at found
      · rename_i less
        cases found
        refine ⟨rfl, ?_, [], rfl⟩
        intro draft member
        rcases List.mem_cons.1 member with rfl | member
        · exact Nat.le_refl _
        · exact less.trans (lower draft member)
      · rename_i more
        cases found
        refine ⟨rfl, ?_, first :: before, rfl⟩
        intro draft member
        rcases List.mem_cons.1 member with rfl | member
        · exact Nat.le_of_not_le more
        · exact lower draft member

/-- The drafts that are kept for some fragments: whatever is to come, one of them is the best. -/
structure Drafting (width : Nat) (seen : List Fragment) (drafts : List Draft) : Prop where
  sound : ∀ draft ∈ drafts, draft.Of width seen
  covers : ∀ rows row, rows.flatten ++ row = seen → (∀ row ∈ rows, row ≠ []) →
    ∃ draft ∈ drafts, draft.Beats width (.ofRows width rows row)
  ordered : drafts.Pairwise fun draft later => later.width ≤ draft.width

theorem drafting_start (width : Nat) : Drafting width [] [⟨0, [], [], 0⟩] := by
  refine ⟨?_, ?_, List.pairwise_singleton _ _⟩
  · intro draft member
    rw [List.mem_singleton.1 member]
    exact ⟨[], [], rfl, rfl, by simp⟩
  · intro rows row spelled filled
    obtain ⟨none, rfl⟩ := List.append_eq_nil_iff.1 spelled
    obtain rfl : rows = [] := by
      refine List.eq_nil_iff_forall_not_mem.2 fun row member => filled row member ?_
      exact List.flatten_eq_nil_iff.1 none row member
    exact ⟨_, List.mem_singleton_self _, .refl _⟩

theorem exists_snoc {rows : List (List Fragment)} {row seen : List Fragment} {fragment : Fragment}
    (spelled : rows.flatten ++ row = seen ++ [fragment]) (filled : ∀ row ∈ rows, row ≠ []) :
    (∃ front, row = front ++ [fragment] ∧ rows.flatten ++ front = seen) ∨
      row = [] ∧ ∃ init front, rows = init ++ [front ++ [fragment]] ∧
        init.flatten ++ front = seen := by
  rcases List.eq_nil_or_concat row with rfl | ⟨front, final, rfl⟩
  · right
    rcases List.eq_nil_or_concat rows with rfl | ⟨init, ended, rfl⟩
    · simp at spelled
    · rcases List.eq_nil_or_concat ended with rfl | ⟨front, final, rfl⟩
      · exact absurd rfl (filled [] (by simp))
      · have together : init.flatten ++ front ++ [final] = seen ++ [fragment] := by
          simpa using spelled
        obtain ⟨same, rfl⟩ := List.append_singleton_inj.1 together
        exact ⟨rfl, init, front, by simp, same⟩
  · left
    have together : rows.flatten ++ front ++ [final] = seen ++ [fragment] := by simpa using spelled
    obtain ⟨same, rfl⟩ := List.append_singleton_inj.1 together
    exact ⟨front, List.concat_eq_append, same⟩

section Step

variable {width best : Nat} {seen : List Fragment} {drafts later : List Draft} {draft : Draft}
  {fragment : Fragment} {isLast : Bool}

theorem Drafting.ofRows_of_mem (drafting : Drafting width seen drafts)
    (member : draft ∈ drafts.map (·.extend fragment)) :
    ∃ rows row, draft = .ofRows width rows (row ++ [fragment]) ∧
      rows.flatten ++ row = seen ∧ ∀ row ∈ rows, row ≠ [] := by
  obtain ⟨before, kept, rfl⟩ := List.mem_map.1 member
  obtain ⟨rows, row, rfl, spelled, filled⟩ := drafting.sound before kept
  exact ⟨rows, row, Draft.extend_ofRows rows row fragment, spelled, filled⟩

theorem mem_of_cheapest_eq_some
    (found : cheapest (Draft.closedCost width isLast fragment) (drafts.map (·.extend fragment)) =
      some (best, draft, later)) {other : Draft} (member : other ∈ draft :: later) :
    other ∈ drafts.map (·.extend fragment) := by
  obtain ⟨-, -, before, split⟩ := exists_of_cheapest_eq_some found
  rw [split]
  exact List.mem_append_right before member

theorem Drafting.pairwise_extend (drafting : Drafting width seen drafts) (fragment : Fragment) :
    (drafts.map (·.extend fragment)).Pairwise fun draft later => later.width ≤ draft.width := by
  rw [List.pairwise_map]
  exact drafting.ordered.imp fun less => by simpa [Draft.extend] using less

theorem Drafting.closedCost_le (drafting : Drafting width seen drafts)
    (found : cheapest (Draft.closedCost width isLast fragment) (drafts.map (·.extend fragment)) =
      some (best, draft, later))
    {rows : List (List Fragment)} {row : List Fragment} (spelled : rows.flatten ++ row = seen)
    (filled : ∀ row ∈ rows, row ≠ []) :
    best ≤ (rows.map (rowCost width false)).sum + rowCost width isLast (row ++ [fragment]) := by
  obtain ⟨-, least, -⟩ := exists_of_cheapest_eq_some found
  obtain ⟨other, member, beats⟩ := drafting.covers rows row spelled filled
  calc best ≤ (other.extend fragment).closedCost width isLast fragment :=
        least _ (List.mem_map_of_mem member)
    _ ≤ ((Draft.ofRows width rows row).extend fragment).closedCost width isLast fragment :=
        beats.closedCost_le isLast fragment
    _ = _ := by rw [Draft.extend_ofRows, Draft.closedCost_ofRows]

theorem Drafting.of_step (drafting : Drafting width seen drafts)
    (found : cheapest (Draft.closedCost width false fragment) (drafts.map (·.extend fragment)) =
      some (best, draft, later))
    {other : Draft}
    (member : other ∈ draft :: later ++ [⟨best, draft.current :: draft.lines, [], 0⟩]) :
    other.Of width (seen ++ [fragment]) := by
  rcases List.mem_append.1 member with member | member
  · obtain ⟨rows, row, rfl, spelled, filled⟩ :=
      drafting.ofRows_of_mem (mem_of_cheapest_eq_some found member)
    exact ⟨rows, row ++ [fragment], rfl, by rw [← List.append_assoc, spelled], filled⟩
  · obtain ⟨rows, row, rfl, spelled, filled⟩ :=
      drafting.ofRows_of_mem (mem_of_cheapest_eq_some found List.mem_cons_self)
    rw [List.mem_singleton.1 member]
    refine ⟨rows ++ [row ++ [fragment]], [], ?_, ?_, ?_⟩
    · rw [(exists_of_cheapest_eq_some found).1, Draft.closedCost_ofRows]
      simp [Draft.ofRows, totalWidth]
    · simp [← spelled]
    · simpa [or_imp, forall_and] using filled

theorem Drafting.exists_beats (drafting : Drafting width seen drafts)
    (found : cheapest (Draft.closedCost width false fragment) (drafts.map (·.extend fragment)) =
      some (best, draft, later))
    {rows : List (List Fragment)} {row : List Fragment} (spelled : rows.flatten ++ row = seen)
    (filled : ∀ row ∈ rows, row ≠ []) :
    ∃ other ∈ draft :: later, other.Beats width (.ofRows width rows (row ++ [fragment])) := by
  obtain ⟨cost, least, before, split⟩ := exists_of_cheapest_eq_some found
  obtain ⟨other, member, beats⟩ := drafting.covers rows row spelled filled
  have extended := beats.extend fragment
  rw [Draft.extend_ofRows] at extended
  have there := List.mem_map_of_mem (f := (·.extend fragment)) member
  rw [split] at there
  rcases List.mem_append.1 there with given | there
  · -- The draft that covered the rows is given up, but the cheapest one is better.
    obtain ⟨chosen, -, rfl⟩ := List.mem_map.1 (mem_of_cheapest_eq_some found List.mem_cons_self)
    have narrower := drafting.pairwise_extend fragment
    rw [split, List.pairwise_append] at narrower
    have less := narrower.2.2 _ given _ List.mem_cons_self
    have cheaper := least _ (List.mem_map_of_mem member)
    refine ⟨_, List.mem_cons_self, Draft.Beats.trans ?_ extended⟩
    exact Draft.beats_of_closedCost_le (by simpa [Draft.extend] using less) (cost ▸ cheaper)
  · exact ⟨_, there, extended⟩

theorem Drafting.step (drafting : Drafting width seen drafts)
    (found : cheapest (Draft.closedCost width false fragment) (drafts.map (·.extend fragment)) =
      some (best, draft, later)) :
    Drafting width (seen ++ [fragment])
      (draft :: later ++ [⟨best, draft.current :: draft.lines, [], 0⟩]) := by
  refine ⟨fun other => drafting.of_step found, ?_, ?_⟩
  · intro rows row spelled filled
    rcases exists_snoc spelled filled with ⟨front, rfl, apart⟩ | ⟨rfl, init, front, rfl, apart⟩
    · obtain ⟨other, member, beats⟩ := drafting.exists_beats found apart filled
      exact ⟨other, List.mem_append_left _ member, beats⟩
    · -- The rows end with the fragment, so the new draft competes, whose cost is the least one.
      refine ⟨_, List.mem_append_right _ (List.mem_singleton_self _), rfl, ?_⟩
      intro isLast single columns alone
      have less := drafting.closedCost_le found apart fun row member =>
        filled row (List.mem_append_left _ member)
      have sum : (Draft.ofRows width (init ++ [front ++ [fragment]]) []).cost =
          (init.map (rowCost width false)).sum + rowCost width false (front ++ [fragment]) := by
        simp [Draft.ofRows]
      rw [sum]
      exact Nat.add_le_add_right less _
  · obtain ⟨-, -, before, split⟩ := exists_of_cheapest_eq_some found
    have narrower := drafting.pairwise_extend fragment
    rw [split, List.pairwise_append] at narrower
    rw [List.pairwise_append]
    refine ⟨narrower.2.1, List.pairwise_singleton _ _, ?_⟩
    intro other _ new member
    rw [List.mem_singleton.1 member]
    exact Nat.zero_le _

theorem Drafting.finish (drafting : Drafting width seen drafts)
    (found : cheapest (Draft.closedCost width true fragment) (drafts.map (·.extend fragment)) =
      some (best, draft, later)) :
    BestRows width (seen ++ [fragment])
      ((draft.current :: draft.lines).map List.reverse).reverse := by
  obtain ⟨cost, -, -⟩ := exists_of_cheapest_eq_some found
  obtain ⟨rows, row, rfl, spelled, filled⟩ :=
    drafting.ofRows_of_mem (mem_of_cheapest_eq_some found List.mem_cons_self)
  have chosen : (((Draft.ofRows width rows (row ++ [fragment])).current ::
      (Draft.ofRows width rows (row ++ [fragment])).lines).map List.reverse).reverse =
        rows ++ [row ++ [fragment]] := by
    simp [Draft.ofRows, Function.comp_def]
  rw [chosen]
  refine ⟨by simp [← spelled], by simpa [or_imp, forall_and] using filled, ?_⟩
  intro other spelled' filled'
  have whole : other.flatten ++ [] = seen ++ [fragment] := by rw [List.append_nil, spelled']
  rcases exists_snoc whole filled' with ⟨front, impossible, -⟩ | ⟨-, init, front, rfl, apart⟩
  · simp at impossible
  · rw [rowsCost_snoc, rowsCost_snoc, ← Draft.closedCost_ofRows, ← cost]
    exact drafting.closedCost_le found apart fun row member =>
      filled' row (List.mem_append_left _ member)

end Step

theorem Drafting.ne_nil {width : Nat} {seen : List Fragment} {drafts : List Draft}
    (drafting : Drafting width seen drafts) : drafts ≠ [] := by
  obtain ⟨draft, member, -⟩ := drafting.covers [] seen rfl (by simp)
  exact List.ne_nil_of_mem member

theorem Drafting.bestRows {width : Nat} {seen : List Fragment} {drafts : List Draft}
    {best : List (List Fragment)} {fragments : List Fragment}
    (drafting : Drafting width seen drafts) (more : fragments ≠ []) :
    BestRows width (seen ++ fragments)
      ((breakFrom width drafts best fragments).map List.reverse).reverse := by
  induction fragments generalizing seen drafts best with
  | nil => exact absurd rfl more
  | cons fragment rest ih =>
    rw [breakFrom]
    cases found : cheapest (Draft.closedCost width rest.isEmpty fragment)
        (drafts.map (·.extend fragment)) with
    | none => exact absurd (List.map_eq_nil_iff.1 (cheapest_eq_none_iff.1 found)) drafting.ne_nil
    | some choice =>
      obtain ⟨cost, draft, later⟩ := choice
      cases rest with
      | nil => exact drafting.finish found
      | cons next rest =>
        rw [List.append_cons]
        exact ih (drafting.step found) (List.cons_ne_nil next rest)

theorem bestRows_breakLines (width : Nat) (fragments : List Fragment) :
    BestRows width fragments (breakLines width fragments) := by
  cases fragments with
  | nil => exact ⟨rfl, by simp [breakLines, breakFrom], fun other _ _ => Nat.zero_le _⟩
  | cons fragment rest =>
    exact (drafting_start width).bestRows (List.cons_ne_nil fragment rest)

end Parlor.Layout
