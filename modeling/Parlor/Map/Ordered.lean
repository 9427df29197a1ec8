namespace Parlor

def placeEntry {α : Type} (name : String) (value : α) : List (String × α) → List (String × α)
  | [] => [(name, value)]
  | (other, held) :: rest =>
    if name = other then (name, value) :: rest else (other, held) :: placeEntry name value rest

theorem fst_placeEntry {α : Type} (name : String) (value : α) (entries : List (String × α)) :
    (placeEntry name value entries).map Prod.fst =
      if name ∈ entries.map Prod.fst then entries.map Prod.fst
      else entries.map Prod.fst ++ [name] := by
  induction entries with
  | nil => simp [placeEntry]
  | cons head rest ih =>
    obtain ⟨other, held⟩ := head
    rw [placeEntry]
    by_cases same : name = other
    · simp [same]
    · simp only [same, if_false, List.map_cons, ih, List.mem_cons, false_or]
      split <;> simp

theorem placeEntry_of_not_mem {α : Type} {name : String} {entries : List (String × α)}
    (absent : name ∉ entries.map Prod.fst) (value : α) :
    placeEntry name value entries = entries ++ [(name, value)] := by
  induction entries with
  | nil => rfl
  | cons entry entries ih =>
    rw [List.map_cons, List.mem_cons, not_or] at absent
    rw [placeEntry, if_neg absent.1, ih absent.2, List.cons_append]

structure OrderedMap (α : Type) where
  entries : List (String × α)
  distinct : (entries.map Prod.fst).Nodup
deriving DecidableEq

namespace OrderedMap

variable {α : Type}

def empty : OrderedMap α := ⟨[], .nil⟩

instance : Inhabited (OrderedMap α) := ⟨empty⟩

instance : EmptyCollection (OrderedMap α) := ⟨empty⟩

private theorem nodup_placeEntry (name : String) (value : α) {entries : List (String × α)}
    (h : (entries.map Prod.fst).Nodup) : ((placeEntry name value entries).map Prod.fst).Nodup := by
  rw [fst_placeEntry]
  split
  · exact h
  · rename_i absent
    refine List.nodup_append.2 ⟨h, by simp, fun a member b last => ?_⟩
    rw [List.mem_singleton.1 last]
    exact fun same => absent (same ▸ member)

def insert (map : OrderedMap α) (name : String) (value : α) : OrderedMap α :=
  ⟨placeEntry name value map.entries, nodup_placeEntry name value map.distinct⟩

def ofList (entries : List (String × α)) : OrderedMap α :=
  entries.foldl (fun map entry => map.insert entry.1 entry.2) empty

def get? (map : OrderedMap α) (name : String) : Option α :=
  (map.entries.find? (·.1 = name)).map Prod.snd

def keys (map : OrderedMap α) : List String := map.entries.map Prod.fst

def isEmpty (map : OrderedMap α) : Bool := map.entries.isEmpty

def agrees [DecidableEq α] (map other : OrderedMap α) : Bool := map.entries.isPerm other.entries

theorem keys_insert (map : OrderedMap α) (name : String) (value : α) :
    (map.insert name value).keys = if name ∈ map.keys then map.keys else map.keys ++ [name] :=
  fst_placeEntry name value map.entries

theorem get?_insert (map : OrderedMap α) (name sought : String) (value : α) :
    (map.insert name value).get? sought = if sought = name then some value else map.get? sought := by
  obtain ⟨entries, distinct⟩ := map
  show ((placeEntry name value entries).find? _).map _ = if _ then _ else (entries.find? _).map _
  clear distinct
  induction entries with
  | nil => by_cases found : name = sought <;> simp [placeEntry, found, eq_comm]
  | cons head rest ih =>
    obtain ⟨other, held⟩ := head
    rw [placeEntry]
    by_cases same : name = other
    · subst same
      by_cases found : name = sought
      · simp [found]
      · simp [found, Ne.symm found]
    · by_cases found : other = sought
      · subst found
        simp [same, Ne.symm same]
      · simpa [same, found] using ih

theorem get?_eq_some_iff {map : OrderedMap α} {name : String} {value : α} :
    map.get? name = some value ↔ (name, value) ∈ map.entries := by
  obtain ⟨entries, distinct⟩ := map
  change (entries.find? _).map _ = _ ↔ _ ∈ entries
  induction entries with
  | nil => simp
  | cons head rest ih =>
    obtain ⟨other, held⟩ := head
    obtain ⟨absent, distinct⟩ := List.nodup_cons.1 distinct
    by_cases same : other = name
    · subst same
      have later : (other, value) ∉ rest := fun member =>
        absent (List.mem_map.2 ⟨_, member, rfl⟩)
      simp [later, eq_comm]
    · simp [same, Ne.symm same, ih distinct]

theorem eq_of_entries_eq {map other : OrderedMap α} (same : map.entries = other.entries) :
    map = other := by
  cases map
  cases other
  cases same
  rfl

theorem entries_foldl_insert (map : OrderedMap α) {entries : List (String × α)}
    (distinct : ((map.entries ++ entries).map Prod.fst).Nodup) :
    (entries.foldl (fun map entry => map.insert entry.1 entry.2) map).entries =
      map.entries ++ entries := by
  induction entries generalizing map with
  | nil => simp
  | cons entry entries ih =>
    have absent : entry.1 ∉ map.entries.map Prod.fst := by
      rw [List.map_append, List.map_cons] at distinct
      exact fun member => (List.nodup_append.1 distinct).2.2 _ member _ List.mem_cons_self rfl
    have placed : (map.insert entry.1 entry.2).entries = map.entries ++ [entry] :=
      placeEntry_of_not_mem absent entry.2
    rw [List.foldl_cons, ih, placed, List.append_assoc, List.singleton_append]
    rwa [placed, List.append_assoc, List.singleton_append]

theorem ofList_entries (map : OrderedMap α) : ofList map.entries = map := by
  have distinct : (((empty : OrderedMap α).entries ++ map.entries).map Prod.fst).Nodup :=
    map.distinct
  exact eq_of_entries_eq (empty.entries_foldl_insert distinct)

end OrderedMap

end Parlor
