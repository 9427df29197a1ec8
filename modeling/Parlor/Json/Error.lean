import Parlor.Json.Cursor
import Parlor.Text.Quoted

namespace Parlor.Json

inductive Found where
  | null
  | boolean (value : Bool)
  | integer (text : String)
  | floating (text : String)
  | string (value : String)
  | sequence
  | map
deriving DecidableEq, Repr

def Found.describe : Found → String
  | .null => "null"
  | .boolean value => "boolean \u0060" ++ toString value ++ "\u0060"
  | .integer text => "integer \u0060" ++ text ++ "\u0060"
  | .floating text => "floating point \u0060" ++ text ++ "\u0060"
  | .string value => "string " ++ Text.quoted value
  | .sequence => "sequence"
  | .map => "map"

inductive Fault where
  | expectedValue
  | expectedIdent
  | expectedColon
  | expectedCommaOrBrace
  | expectedCommaOrBracket
  | trailingComma
  | trailingCharacters
  | keyNotString
  | invalidNumber
  | numberOutOfRange
  | invalidEscape
  | unexpectedEndOfEscape
  | loneSurrogate
  | controlCharacter
  | endInValue
  | endInObject
  | endInList
  | endInString
  | missingField (name : String)
  | duplicateField (name : String)
  | unknownVariant (name : String) (expected : List String)
  | invalidType (found : Found) (expected : String)
  | invalidLength (length : Nat) (expected : String)
deriving DecidableEq, Repr

inductive FaultKind where
  | syntactic
  | ending
  | content
deriving DecidableEq, Repr

namespace Fault

def kind : Fault → FaultKind
  | endInValue | endInObject | endInList | endInString => .ending
  | missingField _ | duplicateField _ | unknownVariant _ _ | invalidType _ _
  | invalidLength _ _ => .content
  | _ => .syntactic

def ticked (name : String) : String := "\u0060" ++ name ++ "\u0060"

def message : Fault → String
  | expectedValue => "expected value"
  | expectedIdent => "expected ident"
  | expectedColon => "expected " ++ ticked ":"
  | expectedCommaOrBrace => "expected " ++ ticked "," ++ " or " ++ ticked "\x7d"
  | expectedCommaOrBracket => "expected " ++ ticked "," ++ " or " ++ ticked "]"
  | trailingComma => "trailing comma"
  | trailingCharacters => "trailing characters"
  | keyNotString => "key must be a string"
  | invalidNumber => "invalid number"
  | numberOutOfRange => "number out of range"
  | invalidEscape => "invalid escape"
  | unexpectedEndOfEscape => "unexpected end of hex escape"
  | loneSurrogate => "lone leading surrogate in hex escape"
  | controlCharacter => "control character (\\u0000-\\u001F) found while parsing a string"
  | endInValue => "EOF while parsing a value"
  | endInObject => "EOF while parsing an object"
  | endInList => "EOF while parsing a list"
  | endInString => "EOF while parsing a string"
  | missingField name => "missing field " ++ ticked name
  | duplicateField name => "duplicate field " ++ ticked name
  | unknownVariant name expected =>
    "unknown variant " ++ ticked name ++ ", expected one of " ++
      ", ".intercalate (expected.map ticked)
  | invalidType found expected =>
    "invalid type: " ++ found.describe ++ ", expected " ++ expected
  | invalidLength length expected =>
    "invalid length " ++ toString length ++ ", expected " ++ expected

end Fault

structure Error where
  fault : Fault
  position : Position
deriving DecidableEq, Repr

def Error.message (error : Error) : String :=
  error.fault.message ++ " at line " ++ toString error.position.line ++
    " column " ++ toString error.position.column

namespace Cursor

def fail {α : Type} (cursor : Cursor) (fault : Fault) : Except Error α :=
  .error ⟨fault, cursor.position⟩

def failNext {α : Type} (cursor : Cursor) (fault : Fault) : Except Error α :=
  .error ⟨fault, cursor.nextBytePosition⟩

end Cursor

end Parlor.Json
