import Parlor.Completion
import Parlor.Proofs.Command.Names
/-!
# Completion and commands

The words that are offered are those with which a line can go on to be understood. A line that is
understood has its first word offered all the while it is typed (`offered_of_understood`), and a
word that is offered makes a command, by itself or with a name behind it (`completes_of_offered`).
-/

namespace Parlor.Completion

open Text Command

/-! ## Lines with a cursor -/

def offered (line : String) (cursor : Nat) : List String :=
  candidates (takeBytes cursor line.toList)

def offeredFrom (line : String) (cursor : Nat) : Nat := start (takeBytes cursor line.toList)

def firstWord (line : String) : List Char := (trimStart line.toList).takeWhile (!isSpace ·)

def wordStart (line : String) : Nat := byteLength (line.toList.takeWhile isSpace)

structure InFirstWord (line : String) (cursor : Nat) : Prop where
  boundary : ∃ before after, line.toList = before ++ after ∧ byteLength before = cursor
  behind : wordStart line < cursor
  inside : cursor ≤ wordStart line + byteLength (firstWord line)

variable {line word : String} {before : List Char} {cursor : Nat}

/-! ## What is offered -/

theorem isWord_iff {text : List Char} :
    IsWord text ↔ (text.isEmpty || text.any isSpace) = false := by
  simp [IsWord]

theorem candidates_of_isWord (isWord : IsWord (typed before)) :
    candidates before =
      commandWords.filter fun word => (lowercase (typed before)).isPrefixOf word.toList := by
  rw [candidates, isWord_iff.1 isWord, if_neg Bool.false_ne_true]

theorem candidates_eq_nil (broken : ¬ IsWord (typed before)) : candidates before = [] := by
  rw [isWord_iff, Bool.not_eq_false] at broken
  rw [candidates, if_pos broken]

theorem mem_candidates_iff : word ∈ candidates before ↔
    word ∈ commandWords ∧ IsWord (typed before) ∧ lowercase (typed before) <+: word.toList := by
  by_cases isWord : IsWord (typed before)
  · simp [candidates_of_isWord isWord, isWord]
  · simp [candidates_eq_nil isWord, isWord]

theorem pairwise_candidates (before : List Char) : (candidates before).Pairwise (· < ·) := by
  by_cases isWord : IsWord (typed before)
  · have ordered : commandWords.Pairwise (· < ·) := by decide
    rw [candidates_of_isWord isWord]
    exact ordered.filter _
  · rw [candidates_eq_nil isWord]
    exact .nil

/-! ## What is typed -/

theorem typed_append {blank : List Char} (isBlank : ∀ c ∈ blank, isSpace c = true)
    (text : List Char) : typed (blank ++ text) = typed text :=
  List.dropWhile_append_of_pos isBlank

theorem typed_of_solid {text : List Char} (solid : ∀ c ∈ text, isSpace c = false) :
    typed text = text := by
  cases text with
  | nil => rfl
  | cons c text => exact List.dropWhile_cons_of_neg (by simp [solid c List.mem_cons_self])

theorem takeWhile_append_typed (before : List Char) :
    before.takeWhile isSpace ++ typed before = before :=
  List.takeWhile_append_dropWhile

theorem typed_eq_nil_iff : typed before = [] ↔ ∀ c ∈ before, isSpace c = true := by
  constructor
  · intro none
    have whole := takeWhile_append_typed before
    rw [none, List.append_nil] at whole
    rw [← whole]
    exact blank_takeWhile before
  · intro blank
    rw [← List.append_nil before, typed_append blank, typed_of_solid (by simp)]

theorem start_eq (before : List Char) : start before = byteLength (before.takeWhile isSpace) := by
  have whole := congrArg byteLength (takeWhile_append_typed before)
  rw [byteLength_append] at whole
  rw [start]
  omega

theorem replace_eq (before : List Char) (word : String) :
    replace before word = takeBytes (start before) before ++ word.toList := by
  have front := takeBytes_byteLength (before.takeWhile isSpace) (typed before)
  rw [takeWhile_append_typed] at front
  rw [replace, start_eq, front]

/-! ## The first word -/

theorem firstWord_solid (line : String) : ∀ c ∈ firstWord line, isSpace c = false := by
  intro c member
  simpa using List.all_eq_true.1 List.all_takeWhile c member

theorem exists_line_eq (line : String) : ∃ rest,
    line.toList = line.toList.takeWhile isSpace ++ (firstWord line ++ rest) ∧
      (rest = [] ∨ ∃ space more, rest = space :: more ∧ isSpace space = true) := by
  refine ⟨(trimStart line.toList).dropWhile (!isSpace ·), ?_, ?_⟩
  · rw [firstWord, List.takeWhile_append_dropWhile, trimStart, List.takeWhile_append_dropWhile]
  · cases rest : (trimStart line.toList).dropWhile (!isSpace ·) with
    | nil => exact .inl rfl
    | cons space more =>
      have stops := List.head?_dropWhile_not (!isSpace ·) (trimStart line.toList)
      rw [rest] at stops
      exact .inr ⟨space, more, rfl, by simpa using stops⟩

def firstHeard (line : String) : String := String.ofList (lowercase (firstWord line))

theorem exists_heardWords_eq (nonempty : firstWord line ≠ []) :
    ∃ others, heardWords line = firstHeard line :: others := by
  obtain ⟨rest, whole, ended | ⟨space, more, rfl, isBreak⟩⟩ := exists_line_eq line
  · refine ⟨[], ?_⟩
    rw [heardWords, whole, words_blank_append (blank_takeWhile _), ended, List.append_nil,
      words_of_isWord ⟨nonempty, firstWord_solid line⟩]
    rfl
  · refine ⟨(words more).map fun word => String.ofList (lowercase word), ?_⟩
    rw [heardWords, whole, words_blank_append (blank_takeWhile _),
      words_append_space nonempty (firstWord_solid line) isBreak]
    rfl

theorem mem_commandWords_of_understood {others : List String}
    (understood : ofWords (word :: others) ≠ .unknown) : word ∈ commandWords ∨ word = "?" := by
  unfold ofWords at understood
  split at understood <;> simp_all [commandWords]

/-! ## Completeness -/

/-- The forms of a part of the first word begin its form, because a word in which a sigma has been
typed is none that is offered. -/
theorem lowercase_isPrefix {part rest : List Char}
    (offered : String.ofList (lowercase (part ++ rest)) ∈ commandWords) :
    lowercase part <+: lowercase (part ++ rest) := by
  have latin : ∀ word ∈ commandWords, 'σ' ∉ word.toList ∧ 'ς' ∉ word.toList := by decide
  have plain : 'Σ' ∉ part := by
    intro typed
    have forms := latin _ offered
    rw [String.toList_ofList] at forms
    rcases exists_sigma_mem_lowerAfter (List.mem_append_left rest typed) [] with inner | final
    · exact forms.1 inner
    · exact forms.2 final
  have parts : lowercase (part ++ rest) = lowercase part ++ lowerAfter (part.reverse ++ []) rest :=
    lowerAfter_append plain [] rest
  rw [parts]
  exact List.prefix_append _ _

theorem InFirstWord.exists_part (inside : InFirstWord line cursor) :
    ∃ part rest, firstWord line = part ++ rest ∧ part ≠ [] ∧
      takeBytes cursor line.toList = line.toList.takeWhile isSpace ++ part := by
  obtain ⟨⟨before, after, cut, rfl⟩, behind, within⟩ := inside
  have front := takeBytes_byteLength before after
  rw [← cut] at front
  obtain ⟨rest, whole, -⟩ := exists_line_eq line
  obtain ⟨part, rfl, remaining⟩ :=
    append_of_byteLength_le (whole.symm.trans cut) (Nat.le_of_lt behind)
  rw [byteLength_append, ← wordStart] at behind within
  obtain ⟨others, first, -⟩ := append_of_byteLength_le remaining.symm (by omega)
  refine ⟨part, others, first, ?_, front⟩
  rintro rfl
  simp at behind

theorem offered_of_understood (inside : InFirstWord line cursor)
    (understood : parse line ≠ .unknown) (named : firstHeard line ≠ "?") :
    firstHeard line ∈ offered line cursor ∧ offeredFrom line cursor = wordStart line := by
  obtain ⟨part, rest, first, nonempty, front⟩ := inside.exists_part
  have nonemptyWord : firstWord line ≠ [] := by
    rw [first]
    exact List.append_ne_nil_of_left_ne_nil nonempty rest
  have solid : ∀ c ∈ part, isSpace c = false := by
    intro c member
    apply firstWord_solid line
    rw [first]
    exact List.mem_append_left rest member
  have typedPart : typed (takeBytes cursor line.toList) = part := by
    rw [front, typed_append (blank_takeWhile _), typed_of_solid solid]
  obtain ⟨others, spoken⟩ := exists_heardWords_eq nonemptyWord
  have commands : firstHeard line ∈ commandWords := by
    change ofWords (heardWords line) ≠ .unknown at understood
    rw [spoken] at understood
    exact (mem_commandWords_of_understood understood).resolve_right named
  refine ⟨mem_candidates_iff.2 ⟨commands, ?_, ?_⟩, ?_⟩
  · rw [typedPart]
    exact ⟨nonempty, solid⟩
  · rw [firstHeard, first] at commands
    rw [typedPart, firstHeard, first, String.toList_ofList]
    exact lowercase_isPrefix commands
  · rw [offeredFrom, start, typedPart, front, byteLength_append, wordStart, Nat.add_sub_cancel]

/-! ## Soundness -/

def completed (line word : String) : String := String.ofList (replace line.toList word)

/-- The word goes on with what has been typed, and makes a command by itself or with any name. -/
structure Completes (line word : String) : Prop where
  goesOn : lowercase (typed line.toList) <+: word.toList
  replaced : (completed line word).toList =
    takeBytes (offeredFrom line (byteLength line.toList)) line.toList ++ word.toList
  understood : parse (completed line word) ≠ .unknown ∨
    ∃ command, (word, command) ∈ verbs ∧
      ∀ name, IsWord name.toList → lowercase name.toList = name.toList →
        parse (completed line word ++ " " ++ name) = command name

theorem takeBytes_all (text : List Char) : takeBytes (byteLength text) text = text := by
  simpa using takeBytes_byteLength text []

theorem parse_completed (line word text : String) :
    parse (completed line word ++ text) = parse (word ++ text) := by
  apply parse_of_words_eq
  rw [completed, replace, String.toList_append, String.toList_ofList, List.append_assoc,
    words_blank_append (blank_takeWhile _), ← String.toList_append]

theorem completes_of_offered (isOffered : word ∈ offered line (byteLength line.toList)) :
    Completes line word := by
  rw [offered, takeBytes_all] at isOffered
  obtain ⟨commands, -, goesOn⟩ := mem_candidates_iff.1 isOffered
  refine ⟨goesOn, ?_, ?_⟩
  · rw [completed, String.toList_ofList, offeredFrom, takeBytes_all, replace_eq]
  · have kinds : ∀ word ∈ commandWords, parse word ≠ .unknown ∨ word ∈ verbs.map Prod.fst := by
      decide +kernel
    rcases kinds word commands with alone | listed
    · have same := parse_completed line word ""
      rw [String.append_empty, String.append_empty] at same
      rw [same]
      exact .inl alone
    · obtain ⟨⟨verb, command⟩, isVerb, rfl⟩ := List.mem_map.1 listed
      refine .inr ⟨command, isVerb, ?_⟩
      intro name isWord lower
      have canonical := canonical_of_isWord isWord lower
      rw [String.append_assoc, parse_completed, ← String.append_assoc,
        parse_verb isVerb canonical.notBlank, canonical.heard_eq]

def Left (before : List Char) : Prop :=
  (∀ c ∈ before, isSpace c = true) ∨
    ∃ front space rest, before = front ++ space :: rest ∧ isSpace space = true ∧
      ∃ c ∈ front, isSpace c = false

theorem Left.not_isWord (left : Left before) : ¬ IsWord (typed before) := by
  rintro ⟨nonempty, solid⟩
  rcases left with blank | ⟨front, space, rest, rfl, isBreak, c, member, visible⟩
  · exact nonempty (typed_eq_nil_iff.2 blank)
  · have remains : typed front ≠ [] := by
      rw [ne_eq, typed_eq_nil_iff]
      intro blank
      rw [blank c member] at visible
      cases visible
    have rests : typed (front ++ space :: rest) = typed front ++ space :: rest := by
      have goesOn : ¬ (front.dropWhile isSpace).isEmpty = true := by
        rwa [List.isEmpty_iff]
      rw [typed, trimStart, List.dropWhile_append, if_neg goesOn, typed, trimStart]
    rw [rests] at solid
    rw [solid space (by simp)] at isBreak
    cases isBreak

/-- While the first word of a line that is understood is being typed, that word is offered in its
place. A word that is offered at the end of a line is the beginning of one that is understood. What
is offered is in order, and nothing is offered outside of the first word. -/
theorem completion_agrees :
    (∀ line cursor, InFirstWord line cursor → parse line ≠ .unknown → firstHeard line ≠ "?" →
        firstHeard line ∈ offered line cursor ∧ offeredFrom line cursor = wordStart line) ∧
      (∀ line word, word ∈ offered line (byteLength line.toList) → Completes line word) ∧
      (∀ line cursor, (offered line cursor).Pairwise (· < ·)) ∧
      ∀ line cursor, Left (takeBytes cursor line.toList) → offered line cursor = [] := by
  refine ⟨?_, ?_, ?_, ?_⟩
  · intro line cursor inside understood named
    exact offered_of_understood inside understood named
  · intro line word isOffered
    exact completes_of_offered isOffered
  · intro line cursor
    exact pairwise_candidates _
  · intro line cursor left
    exact candidates_eq_nil left.not_isWord

theorem completion_agrees_kelvin :
    (InFirstWord "\u3000LOO\u212a\u2003" 9 ∧ parse "\u3000LOO\u212a\u2003" ≠ .unknown ∧
        firstHeard "\u3000LOO\u212a\u2003" ≠ "?" ∧
        firstHeard "\u3000LOO\u212a\u2003" ∈ offered "\u3000LOO\u212a\u2003" 9 ∧
        offeredFrom "\u3000LOO\u212a\u2003" 9 = wordStart "\u3000LOO\u212a\u2003") ∧
      ("take" ∈ offered "\u2003TA" (byteLength "\u2003TA".toList) ∧ Completes "\u2003TA" "take") ∧
      Left (takeBytes 4 "go n".toList) ∧ offered "go n" 4 = [] := by
  obtain ⟨complete, sound, -, only⟩ := completion_agrees
  have inside : InFirstWord "\u3000LOO\u212a\u2003" 9 :=
    ⟨⟨"\u3000LOO\u212a".toList, ['\u2003'], by decide, by decide⟩, by decide, by decide⟩
  have understood : parse "\u3000LOO\u212a\u2003" ≠ .unknown := by decide +kernel
  have named : firstHeard "\u3000LOO\u212a\u2003" ≠ "?" := by decide +kernel
  have isOffered : "take" ∈ offered "\u2003TA" (byteLength "\u2003TA".toList) := by decide +kernel
  have left : Left (takeBytes 4 "go n".toList) :=
    .inr ⟨['g', 'o'], ' ', ['n'], by decide, by decide, 'g', by decide, by decide⟩
  exact ⟨⟨inside, understood, named, complete _ _ inside understood named⟩,
    ⟨isOffered, sound _ _ isOffered⟩, left, only _ _ left⟩

end Parlor.Completion
