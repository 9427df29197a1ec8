import Parlor.Editor.Key
import Parlor.Editor.Line
import Parlor.Session.Input

namespace Parlor.Editor

abbrev History := List String

def History.limit : Nat := 100

def History.add (history : History) (text : String) : History :=
  if Text.isBlank text || history.getLast? = some text then history
  else (history ++ [text]).drop (history.length + 1 - History.limit)

structure Cycle where
  typed : Line
  words : List String
  shown : Nat
deriving DecidableEq, Repr

def Cycle.line (cycle : Cycle) : Line :=
  match cycle.words[cycle.shown]? with
  | some word => cycle.typed.complete word
  | none => cycle.typed

structure Editing where
  line : Line
  cycle : Option Cycle
  place : Nat
  typed : Line
deriving DecidableEq, Repr

namespace Editing

def start (history : History) : Editing := ⟨.empty, none, history.length, .empty⟩

def complete (editing : Editing) : Editing :=
  match editing.cycle with
  | some cycle =>
    let next := { cycle with shown := (cycle.shown + 1) % (cycle.words.length + 1) }
    { editing with line := next.line, cycle := some next }
  | none =>
    match editing.line.candidates with
    | [] => editing
    | words =>
      let cycle : Cycle := ⟨editing.line, words, 0⟩
      { editing with line := cycle.line, cycle := some cycle }

def previous (history : History) (editing : Editing) : Editing :=
  match editing.place with
  | 0 => editing
  | place + 1 =>
    { editing with
      line := .ofText ((history[place]?).getD "").toList
      place
      typed := if editing.place = history.length then editing.line else editing.typed }

def next (history : History) (editing : Editing) : Editing :=
  if editing.place = history.length then editing
  else
    match history[editing.place + 1]? with
    | some text => { editing with line := .ofText text.toList, place := editing.place + 1 }
    | none => { editing with line := editing.typed, place := editing.place + 1 }

abbrev Result := Except Session.EditorError String

inductive Step where
  | going (editing : Editing)
  | done (result : Result)

def change (editing : Editing) (f : Line → Line) : Step :=
  .going { editing with line := f editing.line, cycle := none }

def press (history : History) (editing : Editing) : Key → Step
  | .character c => editing.change (·.insert c)
  | .submit => .done (.ok (String.ofList editing.line.text))
  | .cancel => .done (.error .interrupted)
  | .endOrDelete =>
    if editing.line.text.isEmpty then .done (.error .endOfInput)
    else editing.change Line.delete
  | .complete => .going editing.complete
  | .backspace => editing.change Line.backspace
  | .deleteToStart => editing.change Line.deleteToStart
  | .deleteToEnd => editing.change Line.deleteToEnd
  | .deleteWord => editing.change Line.deleteWord
  | .toStart => editing.change Line.toStart
  | .toEnd => editing.change Line.toEnd
  | .previous => .going { editing.previous history with cycle := none }
  | .next => .going { editing.next history with cycle := none }
  | .nothing => editing.change id

def type (history : History) (editing : Editing) (bytes : List UInt8) :
    Option (Result × List UInt8) :=
  if bytes.isEmpty then none
  else
    match _key : readKey? bytes with
    | none => some (.error (.io "invalid data"), [])
    | some (key, rest) =>
      match editing.press history key with
      | .going editing => editing.type history rest
      | .done result => some (result, rest)
termination_by bytes.length
decreasing_by exact length_of_readKey? _key

end Editing

end Parlor.Editor
