import Parlor.Proofs.Layout.PlainLines
import Parlor.Proofs.Layout.Rows
import Mathlib.Data.List.Forall2

namespace Parlor.Layout

/-- What is written in a row: its parts without the spaces behind the last one. -/
def Written (row : List Fragment) (text : List Char) : Prop :=
  ∃ last, row.getLast? = some last ∧ row.flatMap Fragment.written = text ++ blanks last.spaces

structure Cut (width : Nat) (line : List Char) (parts : List Fragment) : Prop where
  spelled : parts.flatMap Fragment.written = line
  narrow : ∀ part ∈ parts, part.width ≤ max width mostColumns
  words : IsPlain line → Words width parts

/-- How a line is set. A line that is shorter than the width stays as it is, but for the spaces at
its end. A longer one is cut into parts, and these are set in rows at the least cost. -/
inductive IsSet (width : Nat) : List Char → List (List Char) → Prop where
  | short {row : List Char} (spaces : Nat) (trimmed : row.getLast? ≠ some ' ')
      (fits : Text.byteLength (row ++ blanks spaces) < width) :
      IsSet width (row ++ blanks spaces) [row]
  | empty (narrow : width = 0) : IsSet width [] [[]]
  | long {line : List Char} {parts : List Fragment} {rows : List (List Fragment)}
      {texts : List (List Char)} (long : width ≤ Text.byteLength line) (some : line ≠ [])
      (cut : Cut width line parts) (best : BestRows width parts rows)
      (written : List.Forall₂ Written rows texts) : IsSet width line texts

def Wraps (width : Nat) (text wrapped : String) : Prop :=
  ∃ lines rows, (∀ line ∈ lines, '\n' ∉ line) ∧ text.toList = ['\n'].intercalate lines ∧
    List.Forall₂ (IsSet width) lines rows ∧ wrapped.toList = ['\n'].intercalate rows.flatten

theorem cut_fragments (width : Nat) (line : List Char) : Cut width line (fragments width line) where
  spelled := flatMap_written_fragments width line
  narrow _ member := width_le_of_mem_fragments member
  words plain := plain.words width

theorem written_lineText {row : List Fragment} (filled : row ≠ []) : Written row (lineText row) := by
  induction row using lineText.induct with
  | case1 => exact absurd rfl filled
  | case2 fragment => exact ⟨fragment, rfl, by simp [lineText, Fragment.written]⟩
  | case3 fragment rest more ih =>
    obtain ⟨last, found, spelled⟩ := ih more
    refine ⟨last, by rw [List.getLast?_cons_of_ne_nil more, found], ?_⟩
    simp [lineText, Fragment.written, spelled]

theorem trimEndSpaces_append (line : List Char) :
    Text.trimEndSpaces line ++ blanks (line.reverse.takeWhile (· = ' ')).length = line := by
  have spelled := written_fragmentOf line.reverse
  rwa [List.reverse_reverse] at spelled

theorem getLast?_trimEndSpaces (line : List Char) :
    (Text.trimEndSpaces line).getLast? ≠ some ' ' := by
  rw [Text.trimEndSpaces, List.getLast?_reverse]
  intro first
  have := List.head?_dropWhile_not (· = ' ') line.reverse
  simp [first] at this

theorem isSet_wrapLine (width : Nat) (line : List Char) : IsSet width line (wrapLine width line) := by
  rw [wrapLine]
  split
  · rename_i fits
    have whole := trimEndSpaces_append line
    rw [← whole] at fits
    have set := IsSet.short _ (getLast?_trimEndSpaces line) fits
    rwa [whole] at set
  · rename_i long
    have long := Nat.le_of_not_lt long
    have cut := cut_fragments width line
    have best := bestRows_breakLines width (fragments width line)
    cases rows : breakLines width (fragments width line) with
    | nil =>
      obtain rfl : line = [] := by
        rw [← cut.spelled, ← best.spelled, rows]
        rfl
      exact .empty (Nat.le_zero.1 long)
    | cons row rest =>
      rw [rows] at best
      have some : line ≠ [] := by
        rintro rfl
        exact absurd (show [] = row :: rest from rows) (List.cons_ne_nil row rest).symm
      refine .long long some cut best (List.forall₂_map_right_iff.2 ?_)
      exact List.forall₂_same.2 fun row member => written_lineText (best.filled row member)

theorem splitLines_ne_nil (text : List Char) : splitLines text ≠ [] := by
  cases text with
  | nil => simp [splitLines]
  | cons c rest =>
    rw [splitLines]
    split
    · simp
    · split <;> simp

theorem splitLines_cons {c : Char} (inner : c ≠ '\n') {rest line : List Char}
    {lines : List (List Char)} (split : splitLines rest = line :: lines) :
    splitLines (c :: rest) = (c :: line) :: lines := by
  rw [splitLines, if_neg inner, split]

theorem intercalate_splitLines (text : List Char) : ['\n'].intercalate (splitLines text) = text := by
  induction text with
  | nil => rfl
  | cons c rest ih =>
    obtain ⟨line, lines, split⟩ := List.exists_cons_of_ne_nil (splitLines_ne_nil rest)
    by_cases ended : c = '\n'
    · rw [splitLines, if_pos ended, split, List.intercalate_cons_cons, ← split, ih, ended]
      rfl
    · rw [splitLines_cons ended split]
      rw [split] at ih
      cases lines with
      | nil => simpa using ih
      | cons next lines => simpa [List.intercalate_cons_cons] using ih

theorem lineFeed_not_mem_splitLines {text line : List Char} (member : line ∈ splitLines text) :
    '\n' ∉ line := by
  induction text generalizing line with
  | nil => simp_all [splitLines]
  | cons c rest ih =>
    obtain ⟨first, lines, split⟩ := List.exists_cons_of_ne_nil (splitLines_ne_nil rest)
    by_cases ended : c = '\n'
    · rw [splitLines, if_pos ended] at member
      rcases List.mem_cons.1 member with rfl | member
      · simp
      · exact ih member
    · rw [splitLines_cons ended split] at member
      rcases List.mem_cons.1 member with rfl | member
      · have inside := ih (split ▸ List.mem_cons_self)
        simp [Ne.symm ended, inside]
      · exact ih (split ▸ List.mem_cons_of_mem _ member)

theorem wraps_wrap (width : Nat) (text : String) : Wraps width text (wrap width text) := by
  refine ⟨splitLines text.toList, (splitLines text.toList).map (wrapLine width), ?_, ?_, ?_, ?_⟩
  · exact fun line member => lineFeed_not_mem_splitLines member
  · exact (intercalate_splitLines text.toList).symm
  · rw [List.forall₂_map_right_iff]
    exact List.forall₂_same.2 fun line _ => isSet_wrapLine width line
  · rw [wrap, String.toList_ofList, joinLines, List.flatMap_def]

-- Ideographs take two columns each, and lines break between them.
example : wrap 4 "\u4e16\u754c\u4eba" = "\u4e16\u754c\n\u4eba" := by decide +kernel

end Parlor.Layout
