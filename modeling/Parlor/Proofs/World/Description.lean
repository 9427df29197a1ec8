import Parlor.World.Room

namespace Parlor

namespace Text

theorem intercalate_cons (separator first : String) (rest : List String) :
    separator.intercalate (first :: rest) = first ++ String.join (rest.map (separator ++ ·)) := by
  induction rest generalizing first with
  | nil => simp
  | cons next rest ih =>
    rw [String.intercalate_cons_cons, ih, List.map_cons, String.join_cons, String.append_assoc,
      String.append_assoc]

theorem intercalate_inj {separator : Char} {parts others : List String} (nonempty : parts ≠ [])
    (nonempty' : others ≠ []) (clear : ∀ part ∈ parts, separator ∉ part.toList)
    (clear' : ∀ part ∈ others, separator ∉ part.toList)
    (same : (String.singleton separator).intercalate parts =
      (String.singleton separator).intercalate others) : parts = others := by
  have split {parts : List String} (nonempty : parts ≠ [])
      (clear : ∀ part ∈ parts, separator ∉ part.toList) :
      ((String.singleton separator).intercalate parts).toList.splitOn separator =
        parts.map String.toList := by
    rw [String.toList_intercalate, String.toList_singleton]
    apply List.splitOn_intercalate
    · simpa using clear
    · simpa using nonempty
  have alike : parts.map String.toList = others.map String.toList := by
    rw [← split nonempty clear, same, split nonempty' clear']
  exact (List.map_inj_right fun _ _ => String.toList_inj.1).1 alike

end Text

namespace Room

open Text

def itemLines (items : List String) : List String :=
  if items.isEmpty then ["You see nothing of interest."]
  else "You see:" :: items.map ("  - " ++ ·)

def exitNames (directions : List String) : List String :=
  if directions.isEmpty then ["None"] else directions

def exitLine (directions : List String) : String :=
  " ".intercalate ("Exits:" :: exitNames directions)

def lines (room : Room) : List String :=
  room.description :: (itemLines room.items ++ [exitLine room.exits.keys])

theorem exitsText_eq (directions : List String) :
    exitsText directions = "\n" ++ exitLine directions := by
  rw [exitLine, intercalate_cons, exitsText, exitNames]
  split <;> simp [← String.toList_inj]

theorem itemsText_eq (items : List String) :
    itemsText items = String.join ((itemLines items).map ("\n" ++ ·)) := by
  rw [itemsText, itemLines]
  split <;> simp [← String.toList_inj, List.flatMap_map]

theorem describe_eq (room : Room) : room.describe = "\n".intercalate room.lines := by
  rw [lines, intercalate_cons, describe, itemsText_eq, exitsText_eq]
  simp [← String.toList_inj]

theorem itemLines_inj {items others : List String} (same : itemLines items = itemLines others) :
    items = others := by
  cases items with
  | nil =>
    cases others with
    | nil => rfl
    | cons other others => simp [itemLines] at same
  | cons item items =>
    cases others with
    | nil => simp [itemLines] at same
    | cons other others =>
      have listed : (item :: items).map ("  - " ++ ·) = (other :: others).map ("  - " ++ ·) :=
        (List.cons.inj same).2
      exact (List.map_inj_right fun _ _ => (String.append_right_inj _).1).1 listed

/-- The names are told apart on their line, and from the word for there being none. -/
def Legible (directions : List String) : Prop :=
  ∀ direction ∈ directions, ' ' ∉ direction.toList ∧ direction ≠ "None"

theorem exitNames_inj {directions others : List String} (legible : Legible directions)
    (legible' : Legible others) (same : exitNames directions = exitNames others) :
    directions = others := by
  cases directions with
  | nil =>
    cases others with
    | nil => rfl
    | cons other others =>
      have marked : other = "None" := (List.cons.inj same).1.symm
      exact absurd marked (legible' other List.mem_cons_self).2
  | cons direction directions =>
    cases others with
    | nil =>
      have marked : direction = "None" := (List.cons.inj same).1
      exact absurd marked (legible direction List.mem_cons_self).2
    | cons other others => exact same

theorem Legible.space_not_mem {directions : List String} (legible : Legible directions) :
    ∀ name ∈ "Exits:" :: exitNames directions, ' ' ∉ name.toList := by
  rw [List.forall_mem_cons]
  refine ⟨by decide, ?_⟩
  intro name member
  rw [exitNames] at member
  split at member
  · obtain rfl := List.mem_singleton.1 member
    decide
  · exact (legible name member).1

theorem exitLine_inj {directions others : List String} (legible : Legible directions)
    (legible' : Legible others) (same : exitLine directions = exitLine others) :
    directions = others := by
  have names : "Exits:" :: exitNames directions = "Exits:" :: exitNames others :=
    intercalate_inj (by simp) (by simp) legible.space_not_mem legible'.space_not_mem same
  exact exitNames_inj legible legible' (List.cons.inj names).2

structure Plain (room : Room) : Prop where
  description : '\n' ∉ room.description.toList
  items : ∀ item ∈ room.items, '\n' ∉ item.toList
  directions : ∀ direction ∈ room.exits.keys, '\n' ∉ direction.toList

variable {room other : Room}

theorem Plain.lineBreak_not_mem_itemLine (plain : room.Plain) :
    ∀ line ∈ itemLines room.items, '\n' ∉ line.toList := by
  intro line member
  rw [itemLines] at member
  split at member
  · obtain rfl := List.mem_singleton.1 member
    decide
  · rcases List.mem_cons.1 member with rfl | member
    · decide
    · obtain ⟨item, held, rfl⟩ := List.mem_map.1 member
      simpa using plain.items item held

theorem Plain.lineBreak_not_mem_exitLine (plain : room.Plain) :
    '\n' ∉ (exitLine room.exits.keys).toList := by
  have clear : ∀ name ∈ exitNames room.exits.keys, '\n' ∉ name.toList := by
    intro name member
    rw [exitNames] at member
    split at member
    · obtain rfl := List.mem_singleton.1 member
      decide
    · exact plain.directions name member
  rw [exitLine, intercalate_cons]
  simpa using clear

theorem Plain.lineBreak_not_mem (plain : room.Plain) :
    ∀ line ∈ room.lines, '\n' ∉ line.toList := by
  rw [lines, List.forall_mem_cons]
  refine ⟨plain.description, ?_⟩
  intro line member
  rcases List.mem_append.1 member with listed | last
  · exact plain.lineBreak_not_mem_itemLine line listed
  · rw [List.mem_singleton.1 last]
    exact plain.lineBreak_not_mem_exitLine

/-- Rooms that are described alike have the same description and the same items in the same order,
and the same exits in the same order if these are legible. -/
theorem describe_inj (plain : room.Plain) (plain' : other.Plain)
    (same : room.describe = other.describe) :
    room.description = other.description ∧ room.items = other.items ∧
      (Legible room.exits.keys → Legible other.exits.keys →
        room.exits.keys = other.exits.keys) := by
  rw [describe_eq, describe_eq] at same
  have sameLines : room.lines = other.lines :=
    intercalate_inj (by simp [lines]) (by simp [lines]) plain.lineBreak_not_mem
      plain'.lineBreak_not_mem same
  obtain ⟨sameDescription, behind⟩ := List.cons.inj sameLines
  obtain ⟨sameItems, sameExits⟩ := List.append_inj' behind rfl
  refine ⟨sameDescription, itemLines_inj sameItems, ?_⟩
  intro legible legible'
  exact exitLine_inj legible legible' (List.singleton_inj.1 sameExits)

def hall : Room where
  id := "hall"
  description := "You see nothing of interest."
  exits := .ofList [("up", "attic"), ("None-", "pit")]
  items := ["You see:", "Exits: None", "  - "]

def lobby : Room :=
  { hall with id := "lobby", exits := .ofList [("up", "hall"), ("None-", "hall")] }

theorem describe_inj_hall :
    hall.Plain ∧ lobby.Plain ∧ hall.describe = lobby.describe ∧
      Legible hall.exits.keys ∧ Legible lobby.exits.keys ∧
      hall.description = lobby.description ∧ hall.items = lobby.items ∧
      hall.exits.keys = lobby.exits.keys := by
  have plain : hall.Plain := ⟨by decide, by decide, by decide⟩
  have plain' : lobby.Plain := ⟨by decide, by decide, by decide⟩
  have legible : Legible hall.exits.keys := by unfold Legible; decide
  have legible' : Legible lobby.exits.keys := by unfold Legible; decide
  obtain ⟨descriptions, items, exits⟩ := describe_inj plain plain' rfl
  exact ⟨plain, plain', rfl, legible, legible', descriptions, items, exits legible legible'⟩

-- An exit may be called like the word for there being none.
example : (Room.mk "hut" "A hut." (.ofList [("None", "yard")]) []).describe =
    (Room.new "hut" "A hut.").describe := by
  decide

end Room

end Parlor
