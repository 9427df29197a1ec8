import Parlor.Game.Reader
import Parlor.Proofs.Json.Objects

namespace Parlor

open Json Game

def SortedMap.texts {α : Type} (written : α → Language Char) (map : SortedMap α) : Language Char :=
  {text | ∃ entries, entries.Perm map.entries ∧ text ∈ object (entryMembers written entries)}

theorem SortedMap.exists_mem_texts {α : Type} {written : α → Language Char}
    (possible : ∀ value, ∃ text, text ∈ written value) (map : SortedMap α) :
    ∃ text, text ∈ map.texts written := by
  obtain ⟨text, text_mem⟩ := exists_mem_entries possible
  exact ⟨text, map.entries, .refl _, text_mem⟩

theorem reads_readMap {α : Type} {read : Reader α} {written : α → Language Char}
    (reads : ∀ value, Reads read value (written value)) (map : SortedMap α) :
    Reads (readMap read) map (map.texts written) := by
  rintro text ⟨entries, perm, text_mem⟩ rest position
  have collected := (reads_readEntries fun entry (_ : entry ∈ entries) => reads entry.2).map
    SortedMap.ofList
  rw [SortedMap.ofList_of_perm perm] at collected
  exact collected text text_mem rest position

def Effect.name : Effect → String
  | .light => "light"
  | .consume => "consume"
  | .none => "none"

theorem effectNamed?_name (effect : Effect) : effectNamed? effect.name = some effect := by
  cases effect <;> rfl

theorem reads_readEffectName (effect : Effect) :
    Reads readEffectName effect (quoted effect.name) := by
  intro text written rest position
  show (readText _ _ >>= _) = _
  rw [reads_readText _ _ text written]
  simp only [bind, Except.bind, effectNamed?_name]
  rfl

theorem reads_readEffect (effect : Effect) : Reads readEffect effect (quoted effect.name) := by
  intro text written rest position
  obtain ⟨front, front_mem, back, back_mem, rfl⟩ := Language.mem_mul.1 written
  obtain ⟨before, skipped, behind⟩ :=
    skipSpace_token (by decide) front_mem (back ++ rest) position
  have name := (reads_readEffectName effect).behind_space back_mem rest before
  rw [List.append_assoc, readEffect, skipped, List.foldl_append, ← behind]
  exact name

theorem reads_readStructure {α : Type} {object : Reader α} {value : α} {texts : Language Char}
    (reads : Reads object value texts) (expected : String) (list : Reader α) :
    Reads (readStructure expected object list) value (token '\x7b' * texts) := by
  refine reads.behind_token (by decide) fun start rest before skipped => ?_
  simp only [readStructure, skipped, Cursor.next]

theorem reads_record {α σ φ : Type} {forms : φ → List Member} {omits : φ → Prop}
    {step : σ → String → Reader σ} {start : σ} {known : List φ → σ} (begins : known [] = start)
    (reads : ∀ seen field, field ∉ seen → ∀ member ∈ forms field,
      Reads (step (known seen) member.key) (known (field :: seen)) (token ':' * member.value))
    (finish : σ → Reader α) {value : α}
    (finished : ∀ seen, (∀ field, field ∈ seen ∨ omits field) →
      Reads (finish (known seen)) value 1) (expected : String) (list : Reader α) :
    Reads (readStructure expected (fun cursor => do
        let (state, after) ← readObject step start cursor
        finish state after) list) value (record forms omits) := by
  subst begins
  rintro text ⟨written, records, text_mem⟩
  have members := reads_readObject (records.steps reads)
  have whole := finished (written.map Prod.fst).reverse fun field => by
    simpa only [List.mem_reverse] using records.complete field
  have both := members.bind whole
  rw [mul_one] at both
  exact reads_readStructure both expected list text text_mem

theorem reads_readField {α : Type} {read : Reader α} {value : α} {texts : Language Char}
    (reads : Reads read value texts) (name : String) {field : Option α} (empty : field = none) :
    Reads (readField name field read) value (token ':' * texts) := by
  subst empty
  exact reads_readMember reads

theorem getD_known {α φ : Type} [DecidableEq φ] {field : φ} {seen : List φ} {value fallback : α}
    (complete : field ∈ seen ∨ value = fallback) :
    (if field ∈ seen then some value else none).getD fallback = value := by
  by_cases member : field ∈ seen
  · simp [member]
  · have omitted := complete.resolve_left member
    simp [member, omitted]

inductive RoomField where
  | description
  | exits
  | items
deriving DecidableEq

namespace RoomDefinition

def forms (room : RoomDefinition) : RoomField → List Member
  | .description => [⟨"description", quoted room.description⟩]
  | .exits => [⟨"exits", object (entryMembers quoted room.exits.entries)⟩]
  | .items =>
    [⟨"items", list (room.items.map quoted)⟩, ⟨"item_names", list (room.items.map quoted)⟩]

def omits (room : RoomDefinition) : RoomField → Prop
  | .description => False
  | .exits => room.exits = .empty
  | .items => room.items = []

def texts (room : RoomDefinition) : Language Char := record room.forms room.omits

theorem exists_mem_texts (room : RoomDefinition) : ∃ text, text ∈ room.texts := by
  have complete : ∀ field, field ∈ [RoomField.description, .exits, .items] := by
    intro field
    cases field <;> decide
  refine exists_mem_record (by decide) complete fun field => ?_
  cases field with
  | description => exact ⟨_, List.mem_cons_self, exists_mem_quoted room.description⟩
  | exits => exact ⟨_, List.mem_cons_self, exists_mem_entries exists_mem_quoted⟩
  | items =>
    refine ⟨_, List.mem_cons_self, exists_mem_list fun texts member => ?_⟩
    obtain ⟨item, _, rfl⟩ := List.mem_map.1 member
    exact exists_mem_quoted item

def known (room : RoomDefinition) (seen : List RoomField) : RoomFields where
  description := if .description ∈ seen then some room.description else none
  exits := if .exits ∈ seen then some room.exits else none
  items := if .items ∈ seen then some room.items else none

theorem reads_readExits (exits : OrderedMap String) :
    Reads readExits exits (object (entryMembers quoted exits.entries)) := by
  have collected := (reads_readEntries fun entry (_ : entry ∈ exits.entries) =>
    reads_readText "a string" entry.2).map OrderedMap.ofList
  rwa [exits.ofList_entries] at collected

theorem reads_readRoomField (room : RoomDefinition) (seen : List RoomField) (field : RoomField)
    (fresh : field ∉ seen) (member : Member) (formed : member ∈ room.forms field) :
    Reads (readRoomField (room.known seen) member.key) (room.known (field :: seen))
      (token ':' * member.value) := by
  cases field with
  | description =>
    obtain rfl := List.mem_singleton.1 formed
    have empty : (room.known seen).description = none := if_neg fresh
    have changed : room.known (.description :: seen) =
        { room.known seen with description := some room.description } := by
      simp [known]
    rw [changed]
    exact (reads_readField (reads_readText "a string" room.description) "description" empty).map
      fun value => { room.known seen with description := some value }
  | exits =>
    obtain rfl := List.mem_singleton.1 formed
    have empty : (room.known seen).exits = none := if_neg fresh
    have changed : room.known (.exits :: seen) =
        { room.known seen with exits := some room.exits } := by
      simp [known]
    rw [changed]
    exact (reads_readField (reads_readExits room.exits) "exits" empty).map
      fun value => { room.known seen with exits := some value }
  | items =>
    have empty : (room.known seen).items = none := if_neg fresh
    have changed : room.known (.items :: seen) =
        { room.known seen with items := some room.items } := by
      simp [known]
    have items := (reads_readField (reads_readTexts "a string" room.items) "items" empty).map
      fun value => { room.known seen with items := some value }
    rw [changed]
    simp only [forms, List.mem_cons, List.not_mem_nil, or_false] at formed
    rcases formed with rfl | rfl
    · exact items
    · exact items

theorem room_known (room : RoomDefinition) {seen : List RoomField}
    (complete : ∀ field, field ∈ seen ∨ room.omits field) :
    (room.known seen).room room.description = room := by
  have exits : (room.known seen).exits.getD .empty = room.exits := getD_known (complete .exits)
  have items : (room.known seen).items.getD [] = room.items := getD_known (complete .items)
  rw [RoomFields.room, exits, items]

def finishRoom (fields : RoomFields) : Reader RoomDefinition := fun after => do
  pure (fields.room (← required "description" fields.description after), after)

theorem reads_readRoom (room : RoomDefinition) : Reads readRoom room room.texts := by
  have begins : room.known [] = {} := rfl
  refine reads_record begins room.reads_readRoomField finishRoom ?_ _ _
  intro seen complete
  have described : .description ∈ seen := (complete .description).resolve_right id
  have known : (room.known seen).description = some room.description := if_pos described
  rintro _ rfl rest position
  simp only [finishRoom, known, required, pure_bind, room_known room complete]
  rfl

end RoomDefinition

inductive GameField where
  | startRoom
  | rooms
  | effects
deriving DecidableEq

namespace GameDefinition

def forms (game : GameDefinition) : GameField → List Member
  | .startRoom => [⟨"start_room", quoted game.startRoom⟩]
  | .rooms => [⟨"rooms", game.rooms.texts RoomDefinition.texts⟩]
  | .effects => [⟨"item_effects", game.effects.texts fun effect => quoted effect.name⟩]

def omits (game : GameDefinition) : GameField → Prop
  | .startRoom => False
  | .rooms => game.rooms = .empty
  | .effects => game.effects = .empty

/-- The texts of game files that write a game down. -/
def texts (game : GameDefinition) : Language Char := record game.forms game.omits * space

theorem exists_mem_texts (game : GameDefinition) : ∃ text, text ∈ game.texts := by
  have complete : ∀ field, field ∈ [GameField.startRoom, .rooms, .effects] := by
    intro field
    cases field <;> decide
  have object : ∃ text, text ∈ record game.forms game.omits := by
    refine exists_mem_record (by decide) complete fun field => ?_
    cases field with
    | startRoom => exact ⟨_, List.mem_cons_self, exists_mem_quoted game.startRoom⟩
    | rooms =>
      exact ⟨_, List.mem_cons_self, game.rooms.exists_mem_texts RoomDefinition.exists_mem_texts⟩
    | effects =>
      exact ⟨_, List.mem_cons_self, game.effects.exists_mem_texts fun _ => exists_mem_quoted _⟩
  obtain ⟨text, text_mem⟩ := object
  exact ⟨text ++ [], Language.append_mem_mul text_mem nil_mem_space⟩

def known (game : GameDefinition) (seen : List GameField) : GameFields where
  startRoom := if .startRoom ∈ seen then some game.startRoom else none
  rooms := if .rooms ∈ seen then some game.rooms else none
  effects := if .effects ∈ seen then some game.effects else none

theorem reads_readGameField (game : GameDefinition) (seen : List GameField) (field : GameField)
    (fresh : field ∉ seen) (member : Member) (formed : member ∈ game.forms field) :
    Reads (readGameField (game.known seen) member.key) (game.known (field :: seen))
      (token ':' * member.value) := by
  cases field with
  | startRoom =>
    obtain rfl := List.mem_singleton.1 formed
    have empty : (game.known seen).startRoom = none := if_neg fresh
    have changed : game.known (.startRoom :: seen) =
        { game.known seen with startRoom := some game.startRoom } := by
      simp [known]
    rw [changed]
    exact (reads_readField (reads_readText "a string" game.startRoom) "start_room" empty).map
      fun value => { game.known seen with startRoom := some value }
  | rooms =>
    obtain rfl := List.mem_singleton.1 formed
    have empty : (game.known seen).rooms = none := if_neg fresh
    have changed : game.known (.rooms :: seen) =
        { game.known seen with rooms := some game.rooms } := by
      simp [known]
    have rooms := reads_readMap RoomDefinition.reads_readRoom game.rooms
    rw [changed]
    exact (reads_readField rooms "rooms" empty).map
      fun value => { game.known seen with rooms := some value }
  | effects =>
    obtain rfl := List.mem_singleton.1 formed
    have empty : (game.known seen).effects = none := if_neg fresh
    have changed : game.known (.effects :: seen) =
        { game.known seen with effects := some game.effects } := by
      simp [known]
    have effects := reads_readMap reads_readEffect game.effects
    rw [changed]
    exact (reads_readField effects "item_effects" empty).map
      fun value => { game.known seen with effects := some value }

theorem game_known (game : GameDefinition) {seen : List GameField}
    (complete : ∀ field, field ∈ seen ∨ game.omits field) :
    (game.known seen).game game.startRoom = game := by
  have rooms : (game.known seen).rooms.getD .empty = game.rooms := getD_known (complete .rooms)
  have effects : (game.known seen).effects.getD .empty = game.effects :=
    getD_known (complete .effects)
  rw [GameFields.game, rooms, effects]

def finishGame (fields : GameFields) : Reader GameDefinition := fun after => do
  pure (fields.game (← required "start_room" fields.startRoom after), after)

theorem reads_readGame (game : GameDefinition) :
    Reads readGame game (record game.forms game.omits) := by
  have begins : game.known [] = {} := rfl
  refine reads_record begins game.reads_readGameField finishGame ?_ _ _
  intro seen complete
  have started : .startRoom ∈ seen := (complete .startRoom).resolve_right id
  have known : (game.known seen).startRoom = some game.startRoom := if_pos started
  rintro _ rfl rest position
  simp only [finishGame, known, required, pure_bind, game_known game complete]
  rfl

/-- A written game is read back as it was. -/
theorem parse_of_mem_texts {game : GameDefinition} {text : String}
    (written : text.toList ∈ game.texts) : parse text = .ok game := by
  obtain ⟨front, front_mem, spaces, blank, same⟩ := Language.mem_mul.1 written
  have start : Cursor.ofString text = ⟨front ++ spaces, ⟨1, 0⟩⟩ := by
    rw [Cursor.ofString, same]
  have read := game.reads_readGame front front_mem spaces ⟨1, 0⟩
  have ends (position : Position) : (Cursor.skipSpace ⟨spaces, position⟩).rest = [] := by
    have skipped := skipSpaceFrom_append blank [] position
    rw [List.append_nil] at skipped
    rw [Cursor.skipSpace, skipped]
    rfl
  rw [parse, readDocument, start, read]
  show (if (Cursor.skipSpace _).rest.isEmpty then _ else _) = _
  rw [ends]
  rfl

def shed : RoomDefinition := ⟨"\n😀", .empty, ["lamp"]⟩

def shedGame : GameDefinition := ⟨"shed", SortedMap.empty.insert "shed" shed, .empty⟩

def roomText : String :=
  "\x7b\"item_names\":[\"l\\u0061mp\"],\"description\": \"\\n\\ud83d\\ude00\"\x7d"

def shedText : String :=
  "\x7b\"rooms\" :\x7b\"shed\":" ++ roomText ++ "\x7d,\n\t\"start_room\":\"shed\"\x7d\r\n"

theorem roomText_mem : roomText.toList ∈ shed.texts := by
  have lamp : "\"l\\u0061mp\"".toList ∈ quoted "lamp" := by
    have a : Spells 'a' "\\u0061".toList := .unit (unitDigits_mem (by decide))
    have mp := raw_append_mem_closed ['m', 'p'] (by decide) nil_mem_closed
    have inner := raw_append_mem_closed ['l'] (by decide) (append_mem_closed a mp)
    exact Language.append_mem_mul (mem_token '"') inner
  have items : "[\"l\\u0061mp\"]".toList ∈ list [quoted "lamp"] :=
    Language.append_mem_mul (mem_token '[')
      (Language.append_mem_mul (singleton_mem_listed lamp) (mem_token ']'))
  have description : " \"\\n\\ud83d\\ude00\"".toList ∈ quoted shed.description := by
    have lineEnd : Spells '\n' "\\n".toList := .short (by decide)
    have high : 0x3d < 0x400 := by decide
    have low : 0x200 < 0x400 := by decide
    have face : Spells '😀' "\\ud83d\\ude00".toList :=
      .pair high low (by decide) (unitDigits_mem (by decide)) (unitDigits_mem (by decide))
    have inner := append_mem_closed lineEnd (append_mem_closed face nil_mem_closed)
    have blank : [' '] ∈ space := mem_space_iff.2 (by simp)
    exact Language.append_mem_mul (append_mem_token blank '"') inner
  have first := Member.append_mem_texts ⟨"item_names", list [quoted "lamp"]⟩
    (plain_mem_quoted (by decide)) (mem_token ':') items
  have second := Member.append_mem_texts ⟨"description", quoted shed.description⟩
    (plain_mem_quoted (by decide)) (mem_token ':') description
  have object := Language.append_mem_mul (mem_token '\x7b')
    (Language.append_mem_mul (pair_mem_listed first (mem_token ',') second) (mem_token '\x7d'))
  have written : Records shed.forms shed.omits
      [(.items, ⟨"item_names", list [quoted "lamp"]⟩),
        (.description, ⟨"description", quoted shed.description⟩)] := by
    refine ⟨?_, by decide, ?_⟩
    · intro entry member
      simp only [List.mem_cons, List.not_mem_nil, or_false] at member
      rcases member with rfl | rfl
      · exact List.mem_cons_of_mem _ List.mem_cons_self
      · exact List.mem_cons_self
    · intro field
      cases field with
      | exits => exact .inr rfl
      | description => exact .inl (by decide)
      | items => exact .inl (by decide)
  have whole : _ ∈ shed.texts := ⟨_, written, object⟩
  convert whole using 1
  decide +kernel

theorem shedText_mem : shedText.toList ∈ shedGame.texts := by
  have room := Member.append_mem_texts ⟨"shed", shed.texts⟩ (plain_mem_quoted (by decide))
    (mem_token ':') roomText_mem
  have rooms := Language.append_mem_mul (mem_token '\x7b')
    (Language.append_mem_mul (singleton_mem_listed room) (mem_token '\x7d'))
  have blank : [' '] ∈ space := mem_space_iff.2 (by simp)
  have indent : ['\n', '\t'] ∈ space := mem_space_iff.2 (by simp)
  have ending : ['\r', '\n'] ∈ space := mem_space_iff.2 (by simp)
  have first := Member.append_mem_texts ⟨"rooms", shedGame.rooms.texts RoomDefinition.texts⟩
    (plain_mem_quoted (by decide)) (append_mem_token blank ':')
    ⟨shedGame.rooms.entries, .refl _, rooms⟩
  have start := Language.append_mem_mul (append_mem_token indent '"')
    (raw_append_mem_closed "start_room".toList (by decide) nil_mem_closed)
  have second := Member.append_mem_texts ⟨"start_room", quoted "shed"⟩ start (mem_token ':')
    (plain_mem_quoted (by decide))
  have object := Language.append_mem_mul (mem_token '\x7b')
    (Language.append_mem_mul (pair_mem_listed first (mem_token ',') second) (mem_token '\x7d'))
  have written : Records shedGame.forms shedGame.omits
      [(.rooms, ⟨"rooms", shedGame.rooms.texts RoomDefinition.texts⟩),
        (.startRoom, ⟨"start_room", quoted "shed"⟩)] := by
    refine ⟨?_, by decide, ?_⟩
    · intro entry member
      simp only [List.mem_cons, List.not_mem_nil, or_false] at member
      rcases member with rfl | rfl
      · exact List.mem_cons_self
      · exact List.mem_cons_self
    · intro field
      cases field with
      | effects => exact .inr rfl
      | rooms => exact .inl (by decide)
      | startRoom => exact .inl (by decide)
  have file : _ ∈ record shedGame.forms shedGame.omits := ⟨_, written, object⟩
  have whole : _ ∈ shedGame.texts := Language.append_mem_mul file ending
  convert whole using 1
  decide +kernel

theorem parse_of_mem_texts_shed :
    shedText.toList ∈ shedGame.texts ∧ parse shedText = .ok shedGame :=
  ⟨shedText_mem, parse_of_mem_texts shedText_mem⟩

end GameDefinition

end Parlor
