import Parlor.Proofs.World.Outcomes
import Parlor.Session.Basic

namespace Parlor.Session

def cutLines : List UInt8 → List (List UInt8)
  | [] => []
  | byte :: rest =>
    if byte = 10 then [byte] :: cutLines rest
    else match cutLines rest with
      | [] => [[byte]]
      | line :: lines => (byte :: line) :: lines

/-- A line without the line feed at its end, and without a carriage return in front of that. -/
def lineBody (line : List UInt8) : List UInt8 :=
  if [13, 10].isSuffixOf line then line.dropLast.dropLast
  else if [10].isSuffixOf line then line.dropLast
  else line

def said (line : List UInt8) : Option String := String.fromUTF8? ⟨(lineBody line).toArray⟩

def Quits : Option String → Bool
  | some text => Command.parse text = .quit
  | none => false

/-- The lines up to the first that quits. If no line does, the end of the input quits. -/
def takenLines (lines : List (Option String)) : List (Option String) :=
  match lines.findIdx? Quits with
  | some place => lines.take (place + 1)
  | none => lines ++ [some "quit"]

theorem cutLines_ne_nil {bytes : List UInt8} (h : bytes ≠ []) : cutLines bytes ≠ [] := by
  cases bytes with
  | nil => exact absurd rfl h
  | cons byte rest =>
    rw [cutLines]
    split
    · simp
    · split <;> simp

theorem cutLines_eq_cons {bytes : List UInt8} (h : bytes ≠ []) :
    cutLines bytes =
      ((takeLine bytes).1 ++ if (takeLine bytes).2.1 then [10] else []) ::
        cutLines (takeLine bytes).2.2 := by
  induction bytes with
  | nil => exact absurd rfl h
  | cons byte rest ih =>
    rw [cutLines, takeLine, lineEnd]
    split
    · rename_i ended
      simp [ended]
    · cases rest with
      | nil => simp [takeLine, cutLines]
      | cons next rest =>
        rw [ih (List.cons_ne_nil next rest)]
        simp

theorem lineFeed_not_mem_takeLine (bytes : List UInt8) : 10 ∉ (takeLine bytes).1 := by
  induction bytes with
  | nil => simp [takeLine]
  | cons byte rest ih =>
    rw [takeLine, lineEnd]
    split
    · simp
    · rename_i differs
      simp [Ne.symm differs, ih]

theorem lineBody_eq {line : List UInt8} (ended : Bool) (inside : 10 ∉ line) :
    lineBody (line ++ if ended then [10] else []) = if ended then dropReturn line else line := by
  rcases List.eq_nil_or_concat line with rfl | ⟨start, last, rfl⟩
  · cases ended <;> rfl
  · cases ended with
    | true =>
      by_cases returned : last = 13
      · simp [lineBody, List.isSuffixOf, dropReturn, carriageReturn, returned]
      · simp [lineBody, List.isSuffixOf, dropReturn, carriageReturn, returned, Ne.symm returned]
    | false =>
      have other : last ≠ 10 := by
        rintro rfl
        simp at inside
      simp [lineBody, List.isSuffixOf, other.symm]

theorem lineOutcome_eq {line : List UInt8} (ended : Bool) (inside : 10 ∉ line) :
    lineOutcome line ended =
      match said (line ++ if ended then [10] else []) with
      | some text => .line text
      | none => .unreadable := by
  rw [said, lineBody_eq ended inside]
  rfl

theorem cutLines_lineFeed (rest : List UInt8) : cutLines (10 :: rest) = [10] :: cutLines rest := by
  rw [cutLines, if_pos rfl]

theorem cutLines_cons {byte : UInt8} (differs : byte ≠ 10) {rest line : List UInt8}
    {lines : List (List UInt8)} (cut : cutLines rest = line :: lines) :
    cutLines (byte :: rest) = (byte :: line) :: lines := by
  rw [cutLines, if_neg differs, cut]

theorem cutLines_append {head : List UInt8} (ends : head.getLast? = some 10)
    (tail : List UInt8) : cutLines (head ++ tail) = cutLines head ++ cutLines tail := by
  induction head with
  | nil => cases ends
  | cons byte rest ih =>
    cases rest with
    | nil =>
      obtain rfl : byte = 10 := by simpa using ends
      exact cutLines_lineFeed tail
    | cons next rest =>
      have appended := ih (by simpa using ends)
      rw [List.cons_append]
      by_cases ended : byte = 10
      · rw [ended, cutLines_lineFeed, cutLines_lineFeed, appended]
        rfl
      · obtain ⟨line, lines, cut⟩ :=
          List.exists_cons_of_ne_nil (cutLines_ne_nil (List.cons_ne_nil next rest))
        rw [cut] at appended
        rw [cutLines_cons ended appended, cutLines_cons ended cut]
        rfl

theorem takenLines_cons (line : Option String) (lines : List (Option String)) :
    takenLines (line :: lines) = line :: if Quits line then [] else takenLines lines := by
  rw [takenLines, List.findIdx?_cons]
  cases Quits line with
  | true => rfl
  | false =>
    rw [takenLines]
    cases lines.findIdx? Quits <;> rfl

theorem read_ofBytes {bytes : List UInt8} (h : bytes ≠ []) :
    (Input.ofBytes bytes).read =
      ⟨lineOutcome (takeLine bytes).1 (takeLine bytes).2.1, true,
        .ofBytes (takeLine bytes).2.2⟩ := by
  cases bytes with
  | nil => exact absurd rfl h
  | cons byte rest => rfl

end Parlor.Session
