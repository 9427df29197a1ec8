import Parlor.Story.Blank
import Parlor.Text.Bytes

namespace Parlor.Story

open Text

inductive Piece where
  | literal (c : Char)
  | blank (occurrence : Occurrence)
deriving DecidableEq, Repr

def Piece.written : Piece → List Char
  | .literal c => [c]
  | .blank occurrence => occurrence.written

def pieces : List Char → List Piece
  | [] => []
  | c :: text =>
    match _found : readBlank (c :: text) with
    | some (occurrence, rest) => .blank occurrence :: pieces rest
    | none => .literal c :: pieces text
termination_by text => text.length
decreasing_by
  · exact readBlank_length_lt _found
  · simp

theorem flatMap_written_pieces (text : List Char) :
    (pieces text).flatMap Piece.written = text := by
  fun_induction pieces text with
  | case1 => rfl
  | case2 c text occurrence rest found ih =>
    rw [List.flatMap_cons, ih, readBlank_eq found]
    rfl
  | case3 c text found ih =>
    rw [List.flatMap_cons, ih]
    rfl

def occurrences (parts : List Piece) : List Occurrence :=
  parts.filterMap fun
    | .literal _ => none
    | .blank occurrence => some occurrence

def blanks (template : String) : List Blank :=
  (occurrences (pieces template.toList)).map Occurrence.blank

structure Span where
  start : Nat
  stop : Nat
  written : List Char
deriving DecidableEq, Repr

def spansFrom (start : Nat) : List Piece → List Span
  | [] => []
  | .literal c :: rest => spansFrom (start + c.utf8Size) rest
  | .blank occurrence :: rest =>
    let stop := start + byteLength occurrence.written
    ⟨start, stop, occurrence.written⟩ :: spansFrom stop rest

theorem length_spansFrom (start : Nat) (parts : List Piece) :
    (spansFrom start parts).length = (occurrences parts).length := by
  induction parts generalizing start with
  | nil => rfl
  | cons part parts ih =>
    cases part with
    | literal c => exact ih _
    | blank occurrence => exact congrArg Nat.succ (ih _)

theorem map_written_spansFrom (start : Nat) (parts : List Piece) :
    (spansFrom start parts).map Span.written = (occurrences parts).map Occurrence.written := by
  induction parts generalizing start with
  | nil => rfl
  | cons part parts ih =>
    cases part with
    | literal c => exact ih _
    | blank occurrence => exact congrArg (List.cons occurrence.written) (ih _)

def spans (template : String) : List Span := spansFrom 0 (pieces template.toList)

end Parlor.Story
