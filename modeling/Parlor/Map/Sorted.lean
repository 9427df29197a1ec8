namespace Parlor

abbrev Increasing {α : Type} (entries : List (String × α)) : Prop :=
  entries.Pairwise fun a b => a.1 < b.1

def insertEntry {α : Type} (name : String) (value : α) :
    List (String × α) → List (String × α)
  | [] => [(name, value)]
  | (other, held) :: rest =>
    if name < other then (name, value) :: (other, held) :: rest
    else if name = other then (name, value) :: rest
    else (other, held) :: insertEntry name value rest

def lookupEntry {α : Type} (name : String) : List (String × α) → Option α
  | [] => none
  | (other, held) :: rest => if name = other then some held else lookupEntry name rest

section Entries

variable {α : Type}

theorem mem_insertEntry {name : String} {value : α} {entry : String × α}
    {entries : List (String × α)} (h : entry ∈ insertEntry name value entries) :
    entry = (name, value) ∨ entry ∈ entries := by
  induction entries with
  | nil => exact .inl (by simpa [insertEntry] using h)
  | cons head rest ih =>
    obtain ⟨other, held⟩ := head
    rw [insertEntry] at h
    split at h
    · simpa using h
    · split at h
      · rcases List.mem_cons.1 h with h | h
        · exact .inl h
        · exact .inr (List.mem_cons_of_mem _ h)
      · rcases List.mem_cons.1 h with h | h
        · exact .inr (h ▸ List.mem_cons_self)
        · exact (ih h).imp_right (List.mem_cons_of_mem _)

theorem increasing_insertEntry (name : String) (value : α) {entries : List (String × α)}
    (h : Increasing entries) : Increasing (insertEntry name value entries) := by
  induction entries with
  | nil => simp [insertEntry]
  | cons head rest ih =>
    obtain ⟨other, held⟩ := head
    obtain ⟨least, tail⟩ := List.pairwise_cons.1 h
    rw [insertEntry]
    split
    · rename_i before
      refine List.pairwise_cons.2 ⟨fun entry member => ?_, h⟩
      rcases List.mem_cons.1 member with rfl | member
      · exact before
      · exact String.lt_trans before (least entry member)
    · split
      · rename_i same
        subst same
        exact List.pairwise_cons.2 ⟨least, tail⟩
      · rename_i notBefore differs
        refine List.pairwise_cons.2 ⟨fun entry member => ?_, ih tail⟩
        rcases mem_insertEntry member with rfl | member
        · exact Std.lt_of_le_of_ne notBefore (Ne.symm differs)
        · exact least entry member

theorem lookupEntry_insertEntry (name sought : String) (value : α)
    (entries : List (String × α)) :
    lookupEntry sought (insertEntry name value entries) =
      if sought = name then some value else lookupEntry sought entries := by
  induction entries with
  | nil => simp [insertEntry, lookupEntry]
  | cons head rest ih =>
    obtain ⟨other, held⟩ := head
    rw [insertEntry]
    split
    · simp [lookupEntry]
    · split
      · rename_i same
        subst same
        by_cases found : sought = name <;> simp [lookupEntry, found]
      · rename_i differs
        by_cases found : sought = other
        · subst found
          simp [lookupEntry, Ne.symm differs]
        · simp [lookupEntry, found, ih]

theorem lookupEntry_eq_none_of_forall_ne {name : String} {entries : List (String × α)}
    (h : ∀ entry ∈ entries, name ≠ entry.1) : lookupEntry name entries = none := by
  induction entries with
  | nil => rfl
  | cons head rest ih =>
    rw [lookupEntry, if_neg (h head List.mem_cons_self)]
    exact ih fun entry member => h entry (List.mem_cons_of_mem _ member)

theorem lookupEntry_eq_some_iff {name : String} {value : α} {entries : List (String × α)}
    (h : Increasing entries) :
    lookupEntry name entries = some value ↔ (name, value) ∈ entries := by
  induction entries with
  | nil => simp [lookupEntry]
  | cons head rest ih =>
    obtain ⟨other, held⟩ := head
    obtain ⟨least, tail⟩ := List.pairwise_cons.1 h
    rw [lookupEntry]
    split
    · rename_i same
      subst same
      constructor
      · intro found
        cases found
        exact List.mem_cons_self
      · intro member
        rcases List.mem_cons.1 member with same | member
        · cases same
          rfl
        · exact absurd (least _ member) (String.lt_irrefl _)
    · rename_i differs
      rw [ih tail]
      constructor
      · exact List.mem_cons_of_mem _
      · intro member
        rcases List.mem_cons.1 member with same | member
        · exact absurd (congrArg Prod.fst same) differs
        · exact member

theorem length_insertEntry (name : String) (value : α) {entries : List (String × α)}
    (h : Increasing entries) :
    (insertEntry name value entries).length =
      if (lookupEntry name entries).isSome then entries.length else entries.length + 1 := by
  induction entries with
  | nil => rfl
  | cons head rest ih =>
    obtain ⟨other, held⟩ := head
    obtain ⟨least, tail⟩ := List.pairwise_cons.1 h
    rw [insertEntry, lookupEntry]
    by_cases same : name = other
    · subst same
      rw [if_neg (String.lt_irrefl name), if_pos rfl, if_pos rfl]
      rfl
    · by_cases before : name < other
      · have absent : lookupEntry name rest = none :=
          lookupEntry_eq_none_of_forall_ne fun entry member equal =>
            String.lt_irrefl _ (String.lt_trans before (equal ▸ least entry member))
        simp [same, before, absent]
      · simp only [same, before, if_false, List.length_cons, ih tail]
        split <;> rfl

end Entries

structure SortedMap (α : Type) where
  entries : List (String × α)
  increasing : Increasing entries
deriving DecidableEq

namespace SortedMap

variable {α β : Type}

def empty : SortedMap α := ⟨[], .nil⟩

instance : Inhabited (SortedMap α) := ⟨empty⟩

instance : EmptyCollection (SortedMap α) := ⟨empty⟩

def get? (map : SortedMap α) (name : String) : Option α :=
  lookupEntry name map.entries

def insert (map : SortedMap α) (name : String) (value : α) : SortedMap α :=
  ⟨insertEntry name value map.entries, increasing_insertEntry name value map.increasing⟩

def erase (map : SortedMap α) (name : String) : SortedMap α :=
  ⟨map.entries.filter (·.1 ≠ name), map.increasing.filter _⟩

def contains (map : SortedMap α) (name : String) : Bool :=
  (map.get? name).isSome

def size (map : SortedMap α) : Nat := map.entries.length

def isEmpty (map : SortedMap α) : Bool := map.entries.isEmpty

def keys (map : SortedMap α) : List String := map.entries.map Prod.fst

def ofList (entries : List (String × α)) : SortedMap α :=
  entries.foldl (fun map entry => map.insert entry.1 entry.2) empty

def mapWithName (f : String → α → β) (map : SortedMap α) : SortedMap β where
  entries := map.entries.map fun entry => (entry.1, f entry.1 entry.2)
  increasing := List.pairwise_map.2 map.increasing

def agreesBy (alike : α → α → Bool) (map other : SortedMap α) : Bool :=
  map.entries.isEqv other.entries fun entry found => entry.1 = found.1 && alike entry.2 found.2

@[simp] theorem get?_empty (name : String) : (empty : SortedMap α).get? name = none := rfl

theorem get?_insert (map : SortedMap α) (name sought : String) (value : α) :
    (map.insert name value).get? sought = if sought = name then some value else map.get? sought :=
  lookupEntry_insertEntry name sought value map.entries

@[simp] theorem get?_insert_self (map : SortedMap α) (name : String) (value : α) :
    (map.insert name value).get? name = some value := by
  simp [get?_insert]

theorem get?_insert_of_ne (map : SortedMap α) {name sought : String} (value : α)
    (h : sought ≠ name) : (map.insert name value).get? sought = map.get? sought := by
  simp [get?_insert, h]

theorem get?_eq_some_iff {map : SortedMap α} {name : String} {value : α} :
    map.get? name = some value ↔ (name, value) ∈ map.entries :=
  lookupEntry_eq_some_iff map.increasing

theorem get?_erase (map : SortedMap α) (name sought : String) :
    (map.erase name).get? sought = if sought = name then none else map.get? sought := by
  obtain ⟨entries, increasing⟩ := map
  show lookupEntry sought (entries.filter _) = if _ then _ else lookupEntry sought entries
  clear increasing
  induction entries with
  | nil => simp [lookupEntry]
  | cons head rest ih =>
    obtain ⟨other, held⟩ := head
    by_cases gone : other = name
    · subst gone
      by_cases found : sought = other
      · subst found
        simpa [List.filter] using ih
      · simpa [List.filter, lookupEntry, found] using ih
    · by_cases found : sought = other
      · subst found
        simp [List.filter, lookupEntry, gone]
      · simp only [List.filter, lookupEntry, gone, found, ne_eq, not_false_eq_true, decide_true,
          if_false]
        exact ih

theorem get?_mapWithName (f : String → α → β) (map : SortedMap α) (name : String) :
    (map.mapWithName f).get? name = (map.get? name).map (f name) := by
  obtain ⟨entries, increasing⟩ := map
  show lookupEntry name (entries.map _) = (lookupEntry name entries).map _
  clear increasing
  induction entries with
  | nil => rfl
  | cons head rest ih =>
    obtain ⟨other, held⟩ := head
    by_cases found : name = other
    · subst found
      simp [lookupEntry]
    · simp [lookupEntry, found, ih]

theorem contains_insert (map : SortedMap α) (name sought : String) (value : α) :
    (map.insert name value).contains sought = (decide (sought = name) || map.contains sought) := by
  rw [contains, get?_insert]
  by_cases same : sought = name <;> simp [same, contains]

theorem size_insert (map : SortedMap α) (name : String) (value : α) :
    (map.insert name value).size = if map.contains name then map.size else map.size + 1 :=
  length_insertEntry name value map.increasing

theorem contains_iff {map : SortedMap α} {name : String} :
    map.contains name = true ↔ ∃ value, map.get? name = some value := by
  simp [contains, Option.isSome_iff_exists]

def insertAll (map : SortedMap α) (entries : List (String × α)) : SortedMap α :=
  entries.foldl (fun map entry => map.insert entry.1 entry.2) map

theorem get?_insertAll_of_forall_ne (map : SortedMap α) {entries : List (String × α)}
    {name : String} (h : ∀ entry ∈ entries, name ≠ entry.1) :
    (map.insertAll entries).get? name = map.get? name := by
  induction entries generalizing map with
  | nil => rfl
  | cons entry rest ih =>
    rw [insertAll, List.foldl_cons]
    refine (ih _ fun other member => h other (List.mem_cons_of_mem _ member)).trans ?_
    exact get?_insert_of_ne map entry.2 (h entry List.mem_cons_self)

theorem get?_insertAll_of_mem (map : SortedMap α) {entries : List (String × α)} {name : String}
    {value : α} (distinct : (entries.map Prod.fst).Nodup) (h : (name, value) ∈ entries) :
    (map.insertAll entries).get? name = some value := by
  induction entries generalizing map with
  | nil => cases h
  | cons entry rest ih =>
    obtain ⟨absent, distinct⟩ := List.nodup_cons.1 distinct
    rw [insertAll, List.foldl_cons]
    rcases List.mem_cons.1 h with rfl | h
    · refine (get?_insertAll_of_forall_ne _ fun other member same => ?_).trans
        (get?_insert_self map name value)
      exact absent (List.mem_map.2 ⟨other, member, same.symm⟩)
    · exact ih _ distinct h

theorem mem_of_get?_insertAll {map : SortedMap α} {entries : List (String × α)} {name : String}
    {value : α} (h : (map.insertAll entries).get? name = some value) :
    map.get? name = some value ∨ (name, value) ∈ entries := by
  induction entries generalizing map with
  | nil => exact .inl h
  | cons entry rest ih =>
    rw [insertAll, List.foldl_cons] at h
    rcases ih h with found | member
    · rw [get?_insert] at found
      split at found
      · rename_i same
        cases same
        cases found
        exact .inr List.mem_cons_self
      · exact .inl found
    · exact .inr (List.mem_cons_of_mem _ member)

private theorem entries_eq_of_lookup_eq {entries others : List (String × α)}
    (h : Increasing entries) (h' : Increasing others)
    (same : ∀ name, lookupEntry name entries = lookupEntry name others) : entries = others := by
  induction entries generalizing others with
  | nil =>
    cases others with
    | nil => rfl
    | cons head rest => simpa [lookupEntry] using same head.1
  | cons head rest ih =>
    cases others with
    | nil => simpa [lookupEntry] using same head.1
    | cons head' rest' =>
      obtain ⟨name, value⟩ := head
      obtain ⟨name', value'⟩ := head'
      obtain ⟨least, tail⟩ := List.pairwise_cons.1 h
      obtain ⟨least', tail'⟩ := List.pairwise_cons.1 h'
      have sameName : name = name' := by
        have here : (name, value) ∈ (name', value') :: rest' := by
          rw [← lookupEntry_eq_some_iff h', ← same]
          simp [lookupEntry]
        have there : (name', value') ∈ (name, value) :: rest := by
          rw [← lookupEntry_eq_some_iff h, same]
          simp [lookupEntry]
        rcases List.mem_cons.1 here with here | here
        · exact congrArg Prod.fst here
        · rcases List.mem_cons.1 there with there | there
          · exact (congrArg Prod.fst there).symm
          · exact absurd (String.lt_trans (least _ there) (least' _ here)) (String.lt_irrefl _)
      subst sameName
      have sameValue : value = value' := by simpa [lookupEntry] using same name
      subst sameValue
      refine congrArg _ (ih tail tail' fun sought => ?_)
      by_cases found : sought = name
      · subst found
        rw [lookupEntry_eq_none_of_forall_ne fun entry member equal =>
            String.lt_irrefl _ (equal ▸ least entry member),
          lookupEntry_eq_none_of_forall_ne fun entry member equal =>
            String.lt_irrefl _ (equal ▸ least' entry member)]
      · simpa [lookupEntry, found] using same sought

theorem ext_get? {map other : SortedMap α} (h : ∀ name, map.get? name = other.get? name) :
    map = other := by
  obtain ⟨entries, increasing⟩ := map
  obtain ⟨others, increasing'⟩ := other
  have := entries_eq_of_lookup_eq increasing increasing' h
  subst this
  rfl

theorem insert_comm (map : SortedMap α) {name other : String} (differ : name ≠ other)
    (value further : α) :
    (map.insert name value).insert other further =
      (map.insert other further).insert name value := by
  apply ext_get?
  intro sought
  simp only [get?_insert]
  by_cases first : sought = name
  · have notSecond : sought ≠ other := fun same => differ (first.symm.trans same)
    rw [if_neg notSecond, if_pos first, if_pos first]
  · rw [if_neg first, if_neg first]

theorem keys_mapWithName (f : String → α → β) (map : SortedMap α) :
    (map.mapWithName f).keys = map.keys := by
  simp [keys, mapWithName]

theorem keys_eq_of_contains_eq {map : SortedMap α} {other : SortedMap β}
    (same : ∀ name, map.contains name = other.contains name) : map.keys = other.keys := by
  have blank : map.mapWithName (fun _ _ => ()) = other.mapWithName fun _ _ => () := by
    apply ext_get?
    intro name
    have here := same name
    rw [get?_mapWithName, get?_mapWithName]
    simp only [contains] at here
    cases found : map.get? name <;> cases found' : other.get? name <;> simp_all
  rw [← keys_mapWithName (fun _ _ => ()) map, blank, keys_mapWithName]

theorem distinct_keys (map : SortedMap α) : (map.entries.map Prod.fst).Nodup := by
  refine List.pairwise_map.2 (map.increasing.imp fun before same => ?_)
  exact String.lt_irrefl _ (same ▸ before)

theorem entries_ofList_perm {entries : List (String × α)}
    (distinct : (entries.map Prod.fst).Nodup) : (ofList entries).entries.Perm entries := by
  have nodup {entries : List (String × α)} (names : (entries.map Prod.fst).Nodup) :
      entries.Nodup :=
    (List.pairwise_map.1 names).imp fun differ same => differ (congrArg Prod.fst same)
  rw [List.perm_ext_iff_of_nodup (nodup (distinct_keys _)) (nodup distinct)]
  rintro ⟨name, value⟩
  rw [← get?_eq_some_iff]
  constructor
  · intro found
    rcases mem_of_get?_insertAll found with held | member
    · cases held
    · exact member
  · exact get?_insertAll_of_mem .empty distinct

theorem ofList_of_perm {map : SortedMap α} {entries : List (String × α)}
    (perm : entries.Perm map.entries) : ofList entries = map := by
  have distinct := (perm.map Prod.fst).nodup_iff.2 map.distinct_keys
  apply ext_get?
  intro name
  cases found : map.get? name with
  | some value =>
    rw [get?_eq_some_iff] at found
    exact get?_insertAll_of_mem .empty distinct (perm.mem_iff.2 found)
  | none =>
    cases read : (ofList entries).get? name with
    | none => rfl
    | some value =>
      rcases mem_of_get?_insertAll read with held | member
      · cases held
      · rw [get?_eq_some_iff.2 (perm.mem_iff.1 member)] at found
        cases found

end SortedMap

end Parlor
