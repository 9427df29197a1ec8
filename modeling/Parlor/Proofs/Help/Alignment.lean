import Parlor.Help.Entry
import Mathlib.Data.List.Forall2
/-!
# Alignment of the help

The column of commands is as wide in characters as the longest command is in bytes. So there is room
in it for every command (`length_le_columnWidth`), and all descriptions start behind it
(`listText_aligned`).
-/

namespace Parlor.HelpEntry

def columnLimit : Nat := 65536

structure IsWidth (entries : List HelpEntry) (width : Nat) : Prop where
  room : ∀ entry ∈ entries, entry.command.utf8ByteSize ≤ width
  filled : entries ≠ [] → ∃ entry ∈ entries, entry.command.utf8ByteSize = width

/-- A line shows an entry: the command in full, with spaces behind it up to a width, and the
description in full, each behind two spaces. -/
structure Row (width : Nat) (entry : HelpEntry) (line : String) : Prop where
  shown : ∃ cell spaces, line = "  " ++ cell ++ "  " ++ entry.description ∧
    cell = entry.command ++ String.ofList (List.replicate spaces ' ') ∧ cell.length = width
  starts : line.toList.drop (width + 4) = entry.description.toList

theorem length_le_utf8ByteSize (text : String) : text.length ≤ text.utf8ByteSize := by
  induction text using String.push_induction with
  | empty => exact Nat.le_refl _
  | push text c ih =>
    have positive : 0 < c.utf8Size := c.utf8Size_pos
    rw [String.length_push, String.utf8ByteSize_push]
    omega

theorem columnWidth_eq (entries : List HelpEntry) :
    columnWidth entries = (entries.map (·.command.utf8ByteSize)).max?.getD 0 := by
  rw [columnWidth, List.foldl_max, Nat.zero_max]

theorem isWidth_columnWidth (entries : List HelpEntry) : IsWidth entries (columnWidth entries) := by
  rw [columnWidth_eq]
  refine ⟨fun entry member => List.le_max?_getD_of_mem (List.mem_map_of_mem member), ?_⟩
  intro nonempty
  cases found : (entries.map (·.command.utf8ByteSize)).max? with
  | none => simp [nonempty] at found
  | some width => exact List.mem_map.1 (List.max?_mem found)

theorem length_le_columnWidth {entries : List HelpEntry} {entry : HelpEntry}
    (member : entry ∈ entries) : entry.command.length ≤ columnWidth entries :=
  Nat.le_trans (length_le_utf8ByteSize _) ((isWidth_columnWidth entries).room entry member)

theorem columnWidth_lt {entries : List HelpEntry} {limit : Nat} (positive : 0 < limit)
    (short : ∀ entry ∈ entries, entry.command.utf8ByteSize < limit) :
    columnWidth entries < limit := by
  cases entries with
  | nil => exact positive
  | cons entry entries =>
    obtain ⟨longest, member, same⟩ := (isWidth_columnWidth _).filled (List.cons_ne_nil entry entries)
    exact same ▸ short longest member

theorem length_padded {width : Nat} {text : String} (fits : text.length ≤ width) :
    (padded width text).length = width := by
  rw [padded, String.length_append, String.length_ofList, List.length_replicate]
  omega

def row (width : Nat) (entry : HelpEntry) : String :=
  "  " ++ padded width entry.command ++ "  " ++ entry.description

theorem row_of_length_le {width : Nat} {entry : HelpEntry} (fits : entry.command.length ≤ width) :
    Row width entry (row width entry) := by
  refine ⟨⟨_, _, rfl, rfl, length_padded fits⟩, ?_⟩
  have front : ("  " ++ padded width entry.command ++ "  ").toList.length = width + 4 := by
    rw [String.length_toList, String.length_append, String.length_append, length_padded fits]
    show 2 + width + 2 = width + 4
    omega
  rw [row, String.toList_append, ← front, List.drop_left]

theorem listText_eq (entries : List HelpEntry) :
    listText entries = "Commands:" ++
      String.join ((entries.map (row (columnWidth entries))).map ("\n" ++ ·)) := by
  have line (entry : HelpEntry) : "\n" ++ row (columnWidth entries) entry =
      "\n  " ++ padded (columnWidth entries) entry.command ++ "  " ++ entry.description := by
    simp [row, ← String.toList_inj]
  rw [listText, List.map_map]
  simp only [Function.comp_def, line]

theorem listText_aligned (entries : List HelpEntry)
    (short : ∀ entry ∈ entries, entry.command.utf8ByteSize < columnLimit) :
    ∃ width lines, width < columnLimit ∧ IsWidth entries width ∧
      listText entries = "Commands:" ++ String.join (lines.map ("\n" ++ ·)) ∧
      List.Forall₂ (Row width) entries lines := by
  refine ⟨columnWidth entries, entries.map (row (columnWidth entries)),
    columnWidth_lt (by decide) short, isWidth_columnWidth entries, listText_eq entries, ?_⟩
  rw [List.forall₂_map_right_iff, List.forall₂_same]
  exact fun entry member => row_of_length_le (length_le_columnWidth member)

def mixedEntries : List HelpEntry :=
  [⟨"look", "Look around."⟩, ⟨"見る", "Look around, too."⟩, ⟨"help!", ""⟩]

theorem listText_aligned_mixed :
    (∀ entry ∈ mixedEntries, entry.command.utf8ByteSize < columnLimit) ∧
      ∃ width lines, width < columnLimit ∧ IsWidth mixedEntries width ∧
        listText mixedEntries = "Commands:" ++ String.join (lines.map ("\n" ++ ·)) ∧
        List.Forall₂ (Row width) mixedEntries lines := by
  have short : ∀ entry ∈ mixedEntries, entry.command.utf8ByteSize < columnLimit := by decide
  exact ⟨short, listText_aligned mixedEntries short⟩

example : listText mixedEntries =
    "Commands:\n  look    Look around.\n  見る      Look around, too.\n  help!   " := by decide

end Parlor.HelpEntry
