import Parlor.Game.Definition
import Parlor.Json.Read

namespace Parlor.Game

open Json

def effectNamed? : String → Option Effect
  | "light" => some .light
  | "consume" => some .consume
  | "none" => some .none
  | _ => none

def effectNames : List String := ["light", "consume", "none"]

def readEffectName : Reader Effect := fun cursor => do
  let (name, after) ← readText "variant identifier" cursor
  match effectNamed? name with
  | some effect => pure (effect, after)
  | none => after.fail (.unknownVariant name effectNames)

def readNull (start : Cursor) : Except Error Cursor := do
  let (_, after) ← expect 'n' "unit" (fun cursor => do
    pure ((), ← expectLetters cursor ['u', 'l', 'l'])) start
  pure after

def readEffectKey : Reader Effect := fun start =>
  let cursor := start.skipSpace
  match cursor.rest with
  | [] => cursor.fail .endInObject
  | '"' :: _ => readEffectName cursor
  | '\x7d' :: _ => cursor.failNext .expectedValue
  | _ => cursor.failNext .keyNotString

def readEffect : Reader Effect := fun start =>
  let cursor := start.skipSpace
  match cursor.rest with
  | [] => cursor.fail .endInValue
  | '"' :: _ => readEffectName cursor
  | '\x7b' :: _ => do
    let (effect, afterName) ← readEffectKey cursor.next
    let afterColon ← readColon afterName
    let last := (← readNull afterColon).skipSpace
    match last.rest with
    | [] => last.fail .endInObject
    | '\x7d' :: _ => pure (effect, last.next)
    | _ => last.fail .expectedValue
  | _ => cursor.failNext .expectedValue

def readField {α : Type} (name : String) (field : Option α) (read : Reader α) : Reader α :=
  fun cursor =>
    match field with
    | some _ => (tryClose cursor).fail (.duplicateField name)
    | none => readMember read cursor

def required {α : Type} (name : String) (field : Option α) (cursor : Cursor) : Except Error α :=
  match field with
  | some value => pure value
  | none => cursor.fail (.missingField name)

def readStructure {α : Type} (expected : String) (object list : Reader α) : Reader α :=
  fun start =>
    let cursor := start.skipSpace
    match cursor.rest with
    | [] => cursor.fail .endInValue
    | '\x7b' :: _ => object cursor.next
    | '[' :: _ => list cursor.next
    | _ => unexpected expected cursor

def readFirst {α : Type} (expected : String) (read : Reader α) : Reader α := fun cursor => do
  match ← readElement? read true cursor with
  | (some value, after) => pure (value, after)
  | (none, after) => after.skipSpace.next.fail (.invalidLength 0 expected)

structure RoomFields where
  description : Option String := none
  exits : Option (OrderedMap String) := none
  items : Option (List String) := none

def readExits : Reader (OrderedMap String) := fun cursor => do
  let (entries, after) ← readEntries (readText "a string") cursor
  pure (.ofList entries, after)

def readItems : Reader (List String) := readList (readText "a string")

def readRoomField (fields : RoomFields) (key : String) : Reader RoomFields := fun cursor =>
  match key with
  | "description" => do
    let (value, after) ← readField "description" fields.description (readText "a string") cursor
    pure ({ fields with description := some value }, after)
  | "exits" => do
    let (value, after) ← readField "exits" fields.exits readExits cursor
    pure ({ fields with exits := some value }, after)
  | "items" | "item_names" => do
    let (value, after) ← readField "items" fields.items readItems cursor
    pure ({ fields with items := some value }, after)
  | _ => do
    let after ← skipValue (← readColon cursor)
    pure (fields, after)

def RoomFields.room (fields : RoomFields) (description : String) : RoomDefinition :=
  ⟨description, fields.exits.getD .empty, fields.items.getD []⟩

def readRoom : Reader RoomDefinition :=
  readStructure "struct RoomDef"
    (fun cursor => do
      let (fields, after) ← readObject readRoomField {} cursor
      pure (fields.room (← required "description" fields.description after), after))
    (fun cursor => do
      let (description, first) ← readFirst "struct RoomDef with 3 elements" (readText "a string")
        cursor
      let (exits, second) ← readElement? readExits false first
      let (items, third) ← readElement? readItems false second
      pure (RoomFields.room ⟨none, exits, items⟩ description, ← closeList third))

structure GameFields where
  startRoom : Option String := none
  rooms : Option (SortedMap RoomDefinition) := none
  effects : Option (SortedMap Effect) := none

def readMap {α : Type} (read : Reader α) : Reader (SortedMap α) := fun cursor => do
  let (entries, after) ← readEntries read cursor
  pure (.ofList entries, after)

def readGameField (fields : GameFields) (key : String) : Reader GameFields := fun cursor =>
  match key with
  | "start_room" => do
    let (value, after) ← readField "start_room" fields.startRoom (readText "a string") cursor
    pure ({ fields with startRoom := some value }, after)
  | "rooms" => do
    let (value, after) ← readField "rooms" fields.rooms (readMap readRoom) cursor
    pure ({ fields with rooms := some value }, after)
  | "item_effects" => do
    let (value, after) ← readField "item_effects" fields.effects (readMap readEffect) cursor
    pure ({ fields with effects := some value }, after)
  | _ => do
    let after ← skipValue (← readColon cursor)
    pure (fields, after)

def GameFields.game (fields : GameFields) (startRoom : String) : GameDefinition :=
  ⟨startRoom, fields.rooms.getD .empty, fields.effects.getD .empty⟩

def readGame : Reader GameDefinition :=
  readStructure "struct GameDef"
    (fun cursor => do
      let (fields, after) ← readObject readGameField {} cursor
      pure (fields.game (← required "start_room" fields.startRoom after), after))
    (fun cursor => do
      let (startRoom, first) ← readFirst "struct GameDef with 3 elements" (readText "a string")
        cursor
      let (rooms, second) ← readElement? (readMap readRoom) false first
      let (effects, third) ← readElement? (readMap readEffect) false second
      pure (GameFields.game ⟨none, rooms, effects⟩ startRoom, ← closeList third))

def parse (text : String) : Except Error GameDefinition := readDocument readGame text

end Parlor.Game
