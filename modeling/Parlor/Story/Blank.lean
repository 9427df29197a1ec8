import Parlor.Text.Digit

namespace Parlor.Story

open Text

inductive Blank where
  | numbered (id label : String)
  | unnumbered (label : String)
  | reference (id : String)
deriving DecidableEq, Repr

def Blank.label? : Blank → Option String
  | .numbered _ label => some label
  | .unnumbered label => some label
  | .reference _ => none

def Blank.written : Blank → List Char
  | .numbered id label => '\x7b' :: id.toList ++ ':' :: label.toList ++ ['\x7d']
  | .unnumbered label => '\x7b' :: label.toList ++ ['\x7d']
  | .reference id => '\x7b' :: id.toList ++ ['\x7d']

/-- A blank as it stands in a story, with the hint in front of it, which may be empty. -/
structure Occurrence where
  hint : List Char
  blank : Blank
deriving DecidableEq, Repr

def Occurrence.written (occurrence : Occurrence) : List Char :=
  occurrence.hint ++ occurrence.blank.written

def isLabelChar (c : Char) : Bool := c.isAlpha || c = '_'

def isPadding (c : Char) : Bool := c = ' ' || c = '\t'

def readLabel (text : List Char) : Option (String × List Char) :=
  let label := text.takeWhile isLabelChar
  match text.dropWhile isLabelChar with
  | '\x7d' :: rest => if label.isEmpty then none else some (String.ofList label, rest)
  | _ => none

def readBraces : List Char → Option (Blank × List Char)
  | '\x7b' :: text =>
    let id := text.takeWhile isDigit
    if id.isEmpty then
      (readLabel text).map fun (label, rest) => (.unnumbered label, rest)
    else match text.dropWhile isDigit with
      | '\x7d' :: rest => some (.reference (String.ofList id), rest)
      | ':' :: after =>
        (readLabel after).map fun (label, rest) => (.numbered (String.ofList id) label, rest)
      | _ => none
  | _ => none

def readHint : List Char → Option (List Char × List Char)
  | '[' :: text =>
    match text.dropWhile (· ≠ ']') with
    | ']' :: after =>
      some ('[' :: text.takeWhile (· ≠ ']') ++ ']' :: after.takeWhile isPadding,
        after.dropWhile isPadding)
    | _ => none
  | _ => none

def readBlank (text : List Char) : Option (Occurrence × List Char) :=
  match readHint text with
  | some (hint, after) => (readBraces after).map fun (blank, rest) => (⟨hint, blank⟩, rest)
  | none => (readBraces text).map fun (blank, rest) => (⟨[], blank⟩, rest)

theorem readLabel_eq {text rest : List Char} {label : String}
    (h : readLabel text = some (label, rest)) : text = label.toList ++ '\x7d' :: rest := by
  unfold readLabel at h
  simp only at h
  split at h
  · rename_i tail found
    split at h
    · cases h
    · cases h
      rw [String.toList_ofList, ← found, List.takeWhile_append_dropWhile]
  · cases h

theorem readBraces_eq {text rest : List Char} {blank : Blank}
    (h : readBraces text = some (blank, rest)) : text = blank.written ++ rest := by
  unfold readBraces at h
  split at h
  · rename_i text
    simp only at h
    split at h
    · obtain ⟨⟨label, tail⟩, found, same⟩ := Option.map_eq_some_iff.1 h
      cases same
      simp [Blank.written, readLabel_eq found]
    · split at h
      · rename_i tail found
        cases h
        have := List.takeWhile_append_dropWhile (p := isDigit) (l := text)
        rw [found] at this
        simp [Blank.written, this]
      · rename_i after found
        obtain ⟨⟨label, tail⟩, labelled, same⟩ := Option.map_eq_some_iff.1 h
        cases same
        have := List.takeWhile_append_dropWhile (p := isDigit) (l := text)
        rw [found, readLabel_eq labelled] at this
        simp [Blank.written, this]
      · cases h
  · cases h

theorem readHint_eq {text rest hint : List Char} (h : readHint text = some (hint, rest)) :
    text = hint ++ rest := by
  unfold readHint at h
  split at h
  · rename_i text
    split at h
    · rename_i after found
      cases h
      have := List.takeWhile_append_dropWhile (p := (· ≠ ']')) (l := text)
      rw [found] at this
      simpa using this.symm
    · cases h
  · cases h

theorem readBlank_eq {text rest : List Char} {occurrence : Occurrence}
    (h : readBlank text = some (occurrence, rest)) : text = occurrence.written ++ rest := by
  unfold readBlank at h
  split at h
  · rename_i hint after found
    obtain ⟨⟨blank, tail⟩, braces, same⟩ := Option.map_eq_some_iff.1 h
    cases same
    rw [readHint_eq found, readBraces_eq braces]
    simp [Occurrence.written]
  · obtain ⟨⟨blank, tail⟩, braces, same⟩ := Option.map_eq_some_iff.1 h
    cases same
    rw [readBraces_eq braces]
    simp [Occurrence.written]

theorem Blank.written_ne_nil (blank : Blank) : blank.written ≠ [] := by
  cases blank <;> simp [Blank.written]

theorem readBlank_length_lt {text rest : List Char} {occurrence : Occurrence}
    (h : readBlank text = some (occurrence, rest)) : rest.length < text.length := by
  have : 0 < occurrence.blank.written.length :=
    List.length_pos_iff.2 occurrence.blank.written_ne_nil
  rw [readBlank_eq h, Occurrence.written]
  simp only [List.length_append]
  omega

end Parlor.Story
