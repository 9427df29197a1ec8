import Parlor.Proofs.Json.Strings

namespace Parlor.Json

def separator : Bool → Language Char
  | true => 1
  | false => token ','

/-- One text of each kind, with commas between them, and a comma before those that do not come
first. -/
def listed : Bool → List (Language Char) → Language Char
  | _, [] => 1
  | first, texts :: more => separator first * (texts * listed false more)

def list (elements : List (Language Char)) : Language Char :=
  token '[' * (listed true elements * token ']')

structure Member where
  key : String
  value : Language Char

def Member.texts (member : Member) : Language Char := quoted member.key * (token ':' * member.value)

def object (members : List Member) : Language Char :=
  token '\x7b' * (listed true (members.map Member.texts) * token '\x7d')

theorem append_mem_listed {first : Bool} {texts : Language Char} {more : List (Language Char)}
    {comma front back : List Char} (comma_mem : comma ∈ separator first)
    (front_mem : front ∈ texts) (back_mem : back ∈ listed false more) :
    comma ++ (front ++ back) ∈ listed first (texts :: more) :=
  Language.append_mem_mul comma_mem (Language.append_mem_mul front_mem back_mem)

theorem singleton_mem_listed {texts : Language Char} {text : List Char} (written : text ∈ texts) :
    text ∈ listed true [texts] := by
  have alone : [] ++ (text ++ []) ∈ listed true [texts] := append_mem_listed rfl written rfl
  rwa [List.nil_append, List.append_nil] at alone

theorem pair_mem_listed {texts others : Language Char} {text comma other : List Char}
    (text_mem : text ∈ texts) (comma_mem : comma ∈ token ',') (other_mem : other ∈ others) :
    text ++ (comma ++ other) ∈ listed true [texts, others] := by
  have last : comma ++ (other ++ []) ∈ listed false [others] :=
    append_mem_listed comma_mem other_mem rfl
  have both : [] ++ (text ++ (comma ++ (other ++ []))) ∈ listed true [texts, others] :=
    append_mem_listed rfl text_mem last
  rwa [List.nil_append, List.append_nil] at both

theorem Member.append_mem_texts (member : Member) {key colon value : List Char}
    (key_mem : key ∈ quoted member.key) (colon_mem : colon ∈ token ':')
    (value_mem : value ∈ member.value) : key ++ (colon ++ value) ∈ member.texts :=
  Language.append_mem_mul key_mem (Language.append_mem_mul colon_mem value_mem)

theorem exists_mem_listed {kinds : List (Language Char)}
    (possible : ∀ texts ∈ kinds, ∃ text, text ∈ texts) (first : Bool) :
    ∃ text, text ∈ listed first kinds := by
  induction kinds generalizing first with
  | nil => exact ⟨[], rfl⟩
  | cons texts more ih =>
    have comma : ∃ text, text ∈ separator first := by
      cases first with
      | true => exact ⟨[], rfl⟩
      | false => exact ⟨_, mem_token ','⟩
    obtain ⟨comma, comma_mem⟩ := comma
    obtain ⟨front, front_mem⟩ := possible texts List.mem_cons_self
    obtain ⟨back, back_mem⟩ :=
      ih (fun texts member => possible texts (List.mem_cons_of_mem _ member)) false
    exact ⟨_, append_mem_listed comma_mem front_mem back_mem⟩

theorem exists_mem_list {elements : List (Language Char)}
    (possible : ∀ texts ∈ elements, ∃ text, text ∈ texts) : ∃ text, text ∈ list elements := by
  obtain ⟨inner, inner_mem⟩ := exists_mem_listed possible true
  exact ⟨_, Language.append_mem_mul (mem_token '[')
    (Language.append_mem_mul inner_mem (mem_token ']'))⟩

theorem exists_mem_object {members : List Member}
    (possible : ∀ member ∈ members, ∃ text, text ∈ member.value) :
    ∃ text, text ∈ object members := by
  have shown : ∀ texts ∈ members.map Member.texts, ∃ text, text ∈ texts := by
    intro texts member
    obtain ⟨source, source_mem, rfl⟩ := List.mem_map.1 member
    obtain ⟨key, key_mem⟩ := exists_mem_quoted source.key
    obtain ⟨value, value_mem⟩ := possible source source_mem
    exact ⟨_, source.append_mem_texts key_mem (mem_token ':') value_mem⟩
  obtain ⟨inner, inner_mem⟩ := exists_mem_listed shown true
  exact ⟨_, Language.append_mem_mul (mem_token '\x7b')
    (Language.append_mem_mul inner_mem (mem_token '\x7d'))⟩

theorem ne_nil_of_mem_token_mul {c : Char} {texts : Language Char} {text : List Char}
    (written : text ∈ token c * texts) : text ≠ [] := by
  obtain ⟨front, front_mem, back, _, rfl⟩ := Language.mem_mul.1 written
  obtain ⟨spaces, _, last, rfl, rfl⟩ := Language.mem_mul.1 front_mem
  simp

theorem Member.ne_nil_of_mem {member : Member} {text : List Char} (written : text ∈ member.texts) :
    text ≠ [] := by
  rw [texts, quoted, mul_assoc] at written
  exact ne_nil_of_mem_token_mul written

theorem exists_append_of_mem_listed {texts : Language Char} {more : List (Language Char)}
    {close : Language Char} {first : Bool} {text : List Char}
    (written : text ∈ listed first (texts :: more) * close) :
    ∃ comma ∈ separator first, ∃ front ∈ texts, ∃ back ∈ listed false more * close,
      text = comma ++ (front ++ back) := by
  rw [listed, mul_assoc, mul_assoc] at written
  obtain ⟨comma, comma_mem, behind, behind_mem, rfl⟩ := Language.mem_mul.1 written
  obtain ⟨front, front_mem, back, back_mem, rfl⟩ := Language.mem_mul.1 behind_mem
  exact ⟨comma, comma_mem, front, front_mem, back, back_mem, rfl⟩

theorem length_le_of_mem_listed {kinds : List (Language Char)}
    (visible : ∀ texts ∈ kinds, ∀ text ∈ texts, text ≠ []) {first : Bool} {text : List Char}
    (written : text ∈ listed first kinds) : kinds.length ≤ text.length := by
  induction kinds generalizing first text with
  | nil => exact Nat.zero_le _
  | cons texts more ih =>
    obtain ⟨comma, _, behind, behind_mem, rfl⟩ := Language.mem_mul.1 written
    obtain ⟨front, front_mem, back, back_mem, rfl⟩ := Language.mem_mul.1 behind_mem
    have later := ih (fun texts member => visible texts (List.mem_cons_of_mem _ member)) back_mem
    have here := List.length_pos_iff.2 (visible texts List.mem_cons_self front front_mem)
    simp only [List.length_cons, List.length_append]
    omega

theorem length_lt_of_mem_listed {kinds : List (Language Char)}
    (visible : ∀ texts ∈ kinds, ∀ text ∈ texts, text ≠ []) {close : Language Char}
    {text : List Char} (written : text ∈ listed true kinds * close) (rest : List Char) :
    kinds.length < (text ++ rest).length + 1 := by
  obtain ⟨front, front_mem, back, _, rfl⟩ := Language.mem_mul.1 written
  have bound := length_le_of_mem_listed visible front_mem
  simp only [List.length_append]
  omega

theorem skipSpace_next_token {c : Char} (solid : Cursor.isSpace c = false) {text : List Char}
    (written : text ∈ token c) (rest : List Char) (position : Position) :
    (Cursor.skipSpace ⟨text ++ rest, position⟩).next =
      ⟨rest, text.foldl Position.after position⟩ := by
  obtain ⟨before, skipped, behind⟩ := skipSpace_token solid written rest position
  simp only [skipped, Cursor.next, behind]

theorem skipSpace_separated {c : Char} (solid : Cursor.isSpace c = false) {text : List Char}
    (written : text ∈ token ',' * token c) (rest : List Char) (position : Position) :
    ∃ behind comma before, Cursor.skipSpace ⟨text ++ rest, position⟩ = ⟨',' :: behind, comma⟩ ∧
      Cursor.skipSpace ⟨behind, comma.after ','⟩ = ⟨c :: rest, before⟩ ∧
      before.after c = text.foldl Position.after position := by
  obtain ⟨front, front_mem, back, back_mem, rfl⟩ := Language.mem_mul.1 written
  obtain ⟨comma, skipped, place⟩ := skipSpace_token (by decide) front_mem (back ++ rest) position
  obtain ⟨before, skipped', place'⟩ :=
    skipSpace_token solid back_mem rest (front.foldl Position.after position)
  refine ⟨back ++ rest, comma, before, ?_, ?_, ?_⟩
  · rw [List.append_assoc, skipped]
  · rw [place, skipped']
  · rw [place', List.foldl_append]

theorem nextElement_close {text : List Char} (written : text ∈ token ']') (first : Bool)
    (rest : List Char) (position : Position) :
    nextElement first ⟨text ++ rest, position⟩ = .ok none := by
  obtain ⟨before, skipped, _⟩ := skipSpace_token (by decide) written rest position
  rw [nextElement, skipped]
  rfl

theorem nextElement_open {c : Char} (solid : Cursor.isSpace c = false) (opens : c ≠ ']')
    {first : Bool} {text : List Char} (written : text ∈ separator first * token c)
    (rest : List Char) (position : Position) :
    ∃ before : Position, nextElement first ⟨text ++ rest, position⟩ =
      .ok (some ⟨c :: rest, before⟩) ∧ before.after c = text.foldl Position.after position := by
  cases first with
  | true =>
    rw [separator, one_mul] at written
    obtain ⟨before, skipped, place⟩ := skipSpace_token solid written rest position
    refine ⟨before, ?_, place⟩
    rw [nextElement, skipped]
    simp only [opens, if_false, if_true]
    rfl
  | false =>
    obtain ⟨behind, comma, before, skipped, skipped', place⟩ :=
      skipSpace_separated solid written rest position
    refine ⟨before, ?_, place⟩
    rw [nextElement, skipped]
    simp only [Cursor.next, skipped', opens]
    rfl

theorem Reads.behind_space {α : Type} {read : Reader α} {value : α} {c : Char}
    {texts : Language Char} (reads : Reads read value (token c * texts)) {text : List Char}
    (written : text ∈ texts) (rest : List Char) (position : Position) :
    read ⟨c :: (text ++ rest), position⟩ =
      .ok (value, ⟨rest, text.foldl Position.after (position.after c)⟩) :=
  reads (c :: text) (Language.append_mem_mul (mem_token c) written) rest position

theorem reads_readElements {α : Type} {read : Reader α} {c : Char}
    (solid : Cursor.isSpace c = false) (opens : c ≠ ']') {body : α → Language Char}
    {values : List α} (reads : ∀ value ∈ values, Reads read value (token c * body value))
    {fuel : Nat} (enough : values.length < fuel) (first : Bool) :
    Reads (readElements read fuel first) values
      (listed first (values.map fun value => token c * body value) * token ']') := by
  intro text written rest position
  induction values generalizing fuel first text position with
  | nil =>
    obtain ⟨more, rfl⟩ := Nat.exists_eq_add_of_lt enough
    rw [List.map_nil, listed, one_mul] at written
    have closes := nextElement_close written first rest position
    have behind := skipSpace_next_token (by decide) written rest position
    simp only [readElements, closes, ← behind]
    rfl
  | cons value values ih =>
    obtain ⟨more, rfl⟩ := Nat.exists_eq_add_of_lt enough
    obtain ⟨comma, comma_mem, front, front_mem, back, back_mem, rfl⟩ :=
      exists_append_of_mem_listed written
    obtain ⟨opening, opening_mem, here, here_mem, rfl⟩ := Language.mem_mul.1 front_mem
    obtain ⟨before, opened, behind⟩ := nextElement_open solid opens
      (Language.append_mem_mul comma_mem opening_mem) (here ++ (back ++ rest)) position
    have element := (reads value List.mem_cons_self).behind_space here_mem (back ++ rest) before
    have left : values.length < (value :: values).length + more := by
      rw [List.length_cons]
      omega
    have later := ih (fun value member => reads value (List.mem_cons_of_mem _ member)) left false
      back back_mem (here.foldl Position.after (before.after c))
    simp only [List.append_assoc] at opened
    simp only [readElements, List.append_assoc, opened]
    show (read _ >>= _) = _
    rw [element]
    show (readElements _ _ _ _ >>= _) = _
    rw [later, behind]
    simp only [List.foldl_append]
    rfl

theorem reads_readTexts (expected : String) (values : List String) :
    Reads (readList (readText expected)) values (list (values.map quoted)) := by
  refine reads_expect (by decide) "a sequence" ?_
  intro text written rest position
  have visible : ∀ texts ∈ values.map quoted, ∀ text ∈ texts, text ≠ [] := by
    intro texts member text written
    obtain ⟨value, _, rfl⟩ := List.mem_map.1 member
    exact ne_nil_of_mem_token_mul written
  have enough := length_lt_of_mem_listed visible written rest
  rw [List.length_map] at enough
  have reads := reads_readElements (by decide) (by decide)
    (fun value _ => reads_readText expected value) enough true
  exact reads _ written rest position

theorem nextKey_close {text : List Char} (written : text ∈ token '\x7d') (first : Bool)
    (rest : List Char) (position : Position) :
    nextKey first ⟨text ++ rest, position⟩ = .ok none := by
  obtain ⟨before, skipped, _⟩ := skipSpace_token (by decide) written rest position
  rw [nextKey, skipped]
  rfl

theorem nextKey_open {first : Bool} {text : List Char}
    (written : text ∈ separator first * token '"') (rest : List Char) (position : Position) :
    nextKey first ⟨text ++ rest, position⟩ =
      .ok (some ⟨rest, text.foldl Position.after position⟩) := by
  cases first with
  | true =>
    rw [separator, one_mul] at written
    obtain ⟨before, skipped, behind⟩ := skipSpace_token (by decide) written rest position
    rw [nextKey, skipped, ← behind]
    rfl
  | false =>
    obtain ⟨behind, comma, before, skipped, skipped', place⟩ :=
      skipSpace_separated (by decide) written rest position
    rw [nextKey, skipped, ← place]
    simp only [Cursor.next, skipped']
    rfl

theorem reads_readMember {α : Type} {read : Reader α} {value : α} {texts : Language Char}
    (reads : Reads read value texts) : Reads (readMember read) value (token ':' * texts) := by
  refine reads.behind_token (by decide) fun start rest before skipped => ?_
  simp only [readMember, readColon, skipped, if_true, pure_bind, Cursor.next]

section Members

variable {σ : Type} {step : σ → String → Reader σ}

inductive Steps (step : σ → String → Reader σ) : σ → List Member → σ → Prop where
  | done {state : σ} : Steps step state [] state
  | next {state changed final : σ} {member : Member} {members : List Member}
      (reads : Reads (step state member.key) changed (token ':' * member.value))
      (later : Steps step changed members final) : Steps step state (member :: members) final

theorem reads_readMembers {state final : σ} {members : List Member}
    (steps : Steps step state members final) {fuel : Nat} (enough : members.length < fuel)
    (first : Bool) :
    Reads (readMembers step fuel first state) final
      (listed first (members.map Member.texts) * token '\x7d') := by
  intro text written rest position
  induction steps generalizing fuel first text position with
  | done =>
    obtain ⟨more, rfl⟩ := Nat.exists_eq_add_of_lt enough
    rw [List.map_nil, listed, one_mul] at written
    have closes := nextKey_close written first rest position
    have behind := skipSpace_next_token (by decide) written rest position
    simp only [readMembers, closes, ← behind]
    rfl
  | @next state changed final member members reads later ih =>
    obtain ⟨more, rfl⟩ := Nat.exists_eq_add_of_lt enough
    obtain ⟨comma, comma_mem, front, front_mem, back, back_mem, rfl⟩ :=
      exists_append_of_mem_listed written
    obtain ⟨key, key_mem, value, value_mem, rfl⟩ := Language.mem_mul.1 front_mem
    obtain ⟨quote, quote_mem, name, name_mem, rfl⟩ := Language.mem_mul.1 key_mem
    have opened := nextKey_open (Language.append_mem_mul comma_mem quote_mem)
      (name ++ (value ++ (back ++ rest))) position
    have named := reads_readString member.key name name_mem (value ++ (back ++ rest))
      ((comma ++ quote).foldl Position.after position)
    have changes := reads value value_mem (back ++ rest)
      (name.foldl Position.after ((comma ++ quote).foldl Position.after position))
    have left : members.length < (member :: members).length + more := by
      rw [List.length_cons]
      omega
    have others := ih left false back back_mem (value.foldl Position.after
      (name.foldl Position.after ((comma ++ quote).foldl Position.after position)))
    simp only [List.append_assoc] at opened
    simp only [readMembers, List.append_assoc, opened]
    show (readString _ >>= _) = _
    rw [named]
    show (step state member.key _ >>= _) = _
    rw [changes]
    show readMembers _ _ _ _ _ = _
    rw [others]
    simp only [List.foldl_append]

theorem reads_readObject {state final : σ} {members : List Member}
    (steps : Steps step state members final) :
    Reads (readObject step state) final
      (listed true (members.map Member.texts) * token '\x7d') := by
  intro text written rest position
  have visible : ∀ texts ∈ members.map Member.texts, ∀ text ∈ texts, text ≠ [] := by
    intro texts member text written
    obtain ⟨source, _, rfl⟩ := List.mem_map.1 member
    exact source.ne_nil_of_mem written
  have enough := length_lt_of_mem_listed visible written rest
  rw [List.length_map] at enough
  exact reads_readMembers steps enough true _ written rest position

end Members

section Entries

variable {α : Type} {read : Reader α} {written : α → Language Char}

def entryMembers (written : α → Language Char) (entries : List (String × α)) : List Member :=
  entries.map fun entry => ⟨entry.1, written entry.2⟩

theorem exists_mem_entries {entries : List (String × α)}
    (possible : ∀ value, ∃ text, text ∈ written value) :
    ∃ text, text ∈ object (entryMembers written entries) := by
  apply exists_mem_object
  intro member formed
  obtain ⟨entry, _, rfl⟩ := List.mem_map.1 formed
  exact possible entry.2

theorem steps_entries {entries : List (String × α)}
    (reads : ∀ entry ∈ entries, Reads read entry.2 (written entry.2))
    (before : List (String × α)) :
    Steps (fun (entries : List (String × α)) key afterKey => do
        let (value, after) ← readMember read afterKey
        pure ((key, value) :: entries, after))
      before (entryMembers written entries) (entries.reverse ++ before) := by
  induction entries generalizing before with
  | nil => exact .done
  | cons entry entries ih =>
    rw [List.reverse_cons, List.append_assoc]
    refine .next ?_ (ih (fun entry member => reads entry (List.mem_cons_of_mem _ member)) _)
    have value := reads_readMember (reads entry List.mem_cons_self)
    exact value.map fun value => (entry.1, value) :: before

theorem reads_readEntries {entries : List (String × α)}
    (reads : ∀ entry ∈ entries, Reads read entry.2 (written entry.2)) :
    Reads (readEntries read) entries (object (entryMembers written entries)) := by
  have steps := steps_entries reads []
  rw [List.append_nil] at steps
  have collected := (reads_readObject steps).map List.reverse
  rw [List.reverse_reverse] at collected
  exact reads_expect (by decide) "a map" collected

end Entries

section Records

/-- Members that write down a record, in any order: each is a form of its field, no field comes
twice, and the fields that do not come may be left out. -/
structure Records {φ : Type} (forms : φ → List Member) (omits : φ → Prop)
    (written : List (φ × Member)) : Prop where
  formed : ∀ entry ∈ written, entry.2 ∈ forms entry.1
  distinct : (written.map Prod.fst).Nodup
  complete : ∀ field, field ∈ written.map Prod.fst ∨ omits field

variable {φ σ : Type} {forms : φ → List Member} {omits : φ → Prop}

def record (forms : φ → List Member) (omits : φ → Prop) : Language Char :=
  {text | ∃ written, Records forms omits written ∧ text ∈ object (written.map Prod.snd)}

theorem exists_mem_record {fields : List φ} (distinct : fields.Nodup)
    (complete : ∀ field, field ∈ fields)
    (possible : ∀ field, ∃ member ∈ forms field, ∃ text, text ∈ member.value) :
    ∃ text, text ∈ record forms omits := by
  choose form formed shown using possible
  let written := fields.map fun field => (field, form field)
  have names : written.map Prod.fst = fields := by simp [written, Function.comp_def]
  have records : Records forms omits written := by
    refine ⟨?_, names ▸ distinct, fun field => .inl (names ▸ complete field)⟩
    intro entry member
    obtain ⟨field, _, rfl⟩ := List.mem_map.1 member
    exact formed field
  have object_possible : ∀ member ∈ written.map Prod.snd, ∃ text, text ∈ member.value := by
    intro member member_mem
    obtain ⟨entry, entry_mem, rfl⟩ := List.mem_map.1 member_mem
    obtain ⟨field, _, rfl⟩ := List.mem_map.1 entry_mem
    exact shown field
  obtain ⟨text, text_mem⟩ := exists_mem_object object_possible
  exact ⟨text, written, records, text_mem⟩

theorem steps_fields {step : σ → String → Reader σ} {known : List φ → σ}
    (reads : ∀ seen field, field ∉ seen → ∀ member ∈ forms field,
      Reads (step (known seen) member.key) (known (field :: seen)) (token ':' * member.value))
    {written : List (φ × Member)} (formed : ∀ entry ∈ written, entry.2 ∈ forms entry.1)
    (distinct : (written.map Prod.fst).Nodup) (seen : List φ)
    (fresh : ∀ entry ∈ written, entry.1 ∉ seen) :
    Steps step (known seen) (written.map Prod.snd)
      (known ((written.map Prod.fst).reverse ++ seen)) := by
  induction written generalizing seen with
  | nil => exact .done
  | cons entry written ih =>
    obtain ⟨absent, distinct⟩ := List.nodup_cons.1 distinct
    have here := reads seen entry.1 (fresh entry List.mem_cons_self) entry.2
      (formed entry List.mem_cons_self)
    have unseen : ∀ later ∈ written, later.1 ∉ entry.1 :: seen := by
      intro later member again
      rcases List.mem_cons.1 again with same | again
      · exact absent (List.mem_map.2 ⟨later, member, same⟩)
      · exact fresh later (List.mem_cons_of_mem _ member) again
    have others := ih (fun later member => formed later (List.mem_cons_of_mem _ member)) distinct
      (entry.1 :: seen) unseen
    rw [List.map_cons, List.map_cons, List.reverse_cons, List.append_assoc]
    exact .next here others

theorem Records.steps {step : σ → String → Reader σ} {known : List φ → σ}
    (reads : ∀ seen field, field ∉ seen → ∀ member ∈ forms field,
      Reads (step (known seen) member.key) (known (field :: seen)) (token ':' * member.value))
    {written : List (φ × Member)} (records : Records forms omits written) :
    Steps step (known []) (written.map Prod.snd) (known (written.map Prod.fst).reverse) := by
  have steps := steps_fields reads records.formed records.distinct [] fun _ _ => List.not_mem_nil
  rwa [List.append_nil] at steps

end Records

end Parlor.Json
