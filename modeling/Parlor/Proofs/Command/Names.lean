import Parlor.Command
import Parlor.Proofs.Text.Lowercase

namespace Parlor.Command

open Text

def heardWords (name : String) : List String :=
  (words name.toList).map fun word => String.ofList (lowercase word)

def heard (name : String) : String := " ".intercalate (heardWords name)

def NotBlank (name : String) : Prop := ∃ c ∈ name.toList, isSpace c = false

theorem NotBlank.exists_words {name : String} (visible : NotBlank name) :
    ∃ word rest, heardWords name = word :: rest := by
  apply List.exists_cons_of_ne_nil
  rw [heardWords, ne_eq, List.map_eq_nil_iff]
  intro none
  obtain ⟨c, member, solid⟩ := visible
  rw [words_eq_nil_iff.1 none c member] at solid
  cases solid

def verbs : List (String × (String → Command)) :=
  [("go", moveTo), ("take", take), ("use", useItem)]

section Verbs

variable {verb : String} {command : String → Command} {name : String}

theorem ofWords_eq_iff (isVerb : (verb, command) ∈ verbs) {spoken : List String} :
    ofWords spoken = command name ↔
      ∃ word rest, spoken = verb :: word :: rest ∧ name = " ".intercalate (word :: rest) := by
  simp only [verbs, List.mem_cons, List.not_mem_nil, or_false, Prod.mk.injEq] at isVerb
  constructor
  · intro found
    unfold ofWords at found
    split at found <;> rcases isVerb with ⟨rfl, rfl⟩ | ⟨rfl, rfl⟩ | ⟨rfl, rfl⟩ <;> cases found
    all_goals exact ⟨_, _, rfl, rfl⟩
  · rintro ⟨word, rest, rfl, rfl⟩
    rcases isVerb with ⟨rfl, rfl⟩ | ⟨rfl, rfl⟩ | ⟨rfl, rfl⟩ <;> rfl

theorem isWord_verb (isVerb : (verb, command) ∈ verbs) :
    IsWord verb.toList ∧ lowercase verb.toList = verb.toList := by
  simp only [verbs, List.mem_cons, List.not_mem_nil, or_false, Prod.mk.injEq] at isVerb
  rcases isVerb with ⟨rfl, -⟩ | ⟨rfl, -⟩ | ⟨rfl, -⟩ <;> decide +kernel

theorem parse_verb (isVerb : (verb, command) ∈ verbs) (visible : NotBlank name) :
    parse (verb ++ " " ++ name) = command (heard name) := by
  obtain ⟨⟨nonempty, solid⟩, lower⟩ := isWord_verb isVerb
  obtain ⟨word, rest, found⟩ := visible.exists_words
  have spelled : (verb ++ " " ++ name).toList = verb.toList ++ ' ' :: name.toList := by
    simp [String.toList_append]
  have spoken : heardWords (verb ++ " " ++ name) = verb :: word :: rest := by
    rw [← found, heardWords, spelled, words_append_space nonempty solid (by decide), List.map_cons,
      lower, String.ofList_toList]
    rfl
  exact (ofWords_eq_iff isVerb).2 ⟨word, rest, spoken, by rw [heard, found]⟩

end Verbs

theorem parse_go {name : String} (visible : NotBlank name) :
    parse ("go " ++ name) = .moveTo (heard name) := by
  have isVerb : ("go", moveTo) ∈ verbs := by simp [verbs]
  have spelled : "go" ++ " " ++ name = "go " ++ name := rfl
  rw [← spelled, parse_verb isVerb visible]

theorem parse_take {name : String} (visible : NotBlank name) :
    parse ("take " ++ name) = .take (heard name) := by
  have isVerb : ("take", take) ∈ verbs := by simp [verbs]
  have spelled : "take" ++ " " ++ name = "take " ++ name := rfl
  rw [← spelled, parse_verb isVerb visible]

structure Canonical (name : String) : Prop where
  nonempty : name ≠ ""
  spaced : ∃ parts, (∀ part ∈ parts, IsWord part) ∧ name.toList = [' '].intercalate parts
  lower : lowercase name.toList = name.toList

theorem lowercase_intercalate (parts : List (List Char)) :
    lowercase ([' '].intercalate parts) = [' '].intercalate (parts.map lowercase) := by
  induction parts with
  | nil => rfl
  | cons part parts ih =>
    cases parts with
    | nil => rw [List.map_singleton, List.intercalate_singleton, List.intercalate_singleton]
    | cons next parts =>
      rw [List.map_cons] at ih
      rw [List.map_cons, List.map_cons, List.intercalate_cons_cons, List.intercalate_cons_cons,
        List.append_assoc, List.append_assoc, List.singleton_append, List.singleton_append,
        lowercase_append_space (by decide), ih]

theorem canonical_intercalate {names : List String} (nonempty : names ≠ [])
    (each : ∀ name ∈ names, IsWord name.toList ∧ lowercase name.toList = name.toList) :
    Canonical (" ".intercalate names) := by
  have parted : (" ".intercalate names).toList = [' '].intercalate (names.map String.toList) :=
    String.toList_intercalate
  have areWords : ∀ part ∈ names.map String.toList, IsWord part := by
    simpa using fun name member => (each name member).1
  refine ⟨?_, ⟨_, areWords, parted⟩, ?_⟩
  · intro empty
    have none := words_intercalate areWords
    rw [← parted, empty] at none
    exact nonempty (List.map_eq_nil_iff.1 none.symm)
  · rw [parted, lowercase_intercalate, List.map_map]
    congr 1
    exact List.map_congr_left fun name member => (each name member).2

theorem Canonical.notBlank {name : String} (canonical : Canonical name) : NotBlank name := by
  obtain ⟨nonempty, ⟨parts, areWords, parted⟩, -⟩ := canonical
  have some : words name.toList ≠ [] := by
    intro none
    rw [parted, words_intercalate areWords] at none
    rw [none, List.intercalate_nil] at parted
    exact nonempty (String.toList_eq_nil_iff.1 parted)
  simpa [words_eq_nil_iff, NotBlank] using some

theorem Canonical.heard_eq {name : String} (canonical : Canonical name) : heard name = name := by
  obtain ⟨-, ⟨parts, areWords, parted⟩, lower⟩ := canonical
  have read : words name.toList = parts := by rw [parted, words_intercalate areWords]
  have lowered : parts.map lowercase = parts := by rw [← read, ← words_lowercase, lower]
  have names : (heardWords name).map String.toList = parts := by
    rw [heardWords, List.map_map, read]
    simpa [Function.comp_def] using lowered
  rw [← String.toList_inj, heard, String.toList_intercalate, names, parted]
  rfl

theorem canonical_of_isWord {name : String} (isWord : IsWord name.toList)
    (lower : lowercase name.toList = name.toList) : Canonical name := by
  have canonical : Canonical (" ".intercalate [name]) :=
    canonical_intercalate (by simp) (by simpa using ⟨isWord, lower⟩)
  rwa [String.intercalate_singleton] at canonical

theorem of_mem_heardWords {line word : String} (h : word ∈ heardWords line) :
    IsWord word.toList ∧ lowercase word.toList = word.toList := by
  obtain ⟨part, member, rfl⟩ := List.mem_map.1 h
  rw [String.toList_ofList, lowercase_lowercase]
  exact ⟨(isWord_of_mem_words member).lowercase, rfl⟩

theorem exists_parse_eq_iff {verb : String} {command : String → Command}
    (isVerb : (verb, command) ∈ verbs) {name : String} :
    (∃ line, parse line = command name) ↔ Canonical name := by
  constructor
  · rintro ⟨line, parsed⟩
    have found : ofWords (heardWords line) = command name := parsed
    obtain ⟨word, rest, spoken, rfl⟩ := (ofWords_eq_iff isVerb).1 found
    refine canonical_intercalate (by simp) fun name member => ?_
    have heard : name ∈ heardWords line := spoken ▸ List.mem_cons_of_mem _ member
    exact of_mem_heardWords heard
  · intro canonical
    exact ⟨_, (parse_verb isVerb canonical.notBlank).trans (congrArg _ canonical.heard_eq)⟩

theorem parse_of_words_eq {line other : String} (same : words line.toList = words other.toList) :
    parse line = parse other := by
  rw [parse, parse, same]

theorem parse_lowercase (line : String) :
    parse (String.ofList (lowercase line.toList)) = parse line := by
  rw [parse, parse, String.toList_ofList, words_lowercase, List.map_map]
  congr 1
  simp [lowercase_lowercase]

theorem parse_eq_ofWords (line : String) :
    parse line = ofWords ((words (lowercase (trim line.toList))).map String.ofList) := by
  rw [parse, words_lowercase, words_trim, List.map_map]
  rfl

/-- A line gives one command however its words are spaced and its letters are cased. The names in
commands are the canonical ones, and each of them is heard behind its verb. -/
theorem parse_respelled :
    (∀ before line after, isBlank before = true → isBlank after = true →
        parse (before ++ line ++ after) = parse line) ∧
      (∀ left gap other right, isBlank gap = true → gap ≠ "" → isBlank other = true → other ≠ "" →
        parse (left ++ gap ++ right) = parse (left ++ other ++ right)) ∧
      (∀ line, parse (String.ofList (lowercase line.toList)) = parse line) ∧
      (∀ line, parse line = ofWords ((words (lowercase (trim line.toList))).map String.ofList)) ∧
      ∀ verb command, (verb, command) ∈ verbs → ∀ name,
        ((∃ line, parse line = command name) ↔ Canonical name) ∧
          (Canonical name → parse (verb ++ " " ++ name) = command name) := by
  refine ⟨?_, ?_, parse_lowercase, parse_eq_ofWords, ?_⟩
  · intro before line after blank blank'
    apply parse_of_words_eq
    rw [String.toList_append, String.toList_append, words_append_blank (isBlank_iff.1 blank'),
      words_blank_append (isBlank_iff.1 blank)]
  · intro left gap other right blank nonempty blank' nonempty'
    apply parse_of_words_eq
    rw [ne_eq, ← String.toList_eq_nil_iff] at nonempty nonempty'
    simp only [String.toList_append, words_append_gap nonempty (isBlank_iff.1 blank),
      words_append_gap nonempty' (isBlank_iff.1 blank')]
  · intro verb command isVerb name
    refine ⟨exists_parse_eq_iff isVerb, fun canonical => ?_⟩
    rw [parse_verb isVerb canonical.notBlank, canonical.heard_eq]

example : parse "\u2003Take  ΑΛΣ\u00a0ΟΔΟΣ \n" = .take "αλς οδος" := by decide +kernel

end Parlor.Command
