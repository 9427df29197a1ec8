import Parlor.Text.Encoding
/-!
# Where lines come from

Lines come from a line editor, as long as there is one that works, and else from plain bytes. The
line editor may deliver a line, be interrupted, come to the end, or break. If it breaks, the same
line is read from the plain bytes, and the editor is not used again.
-/

namespace Parlor.Session

inductive EditorError where
  | endOfInput
  | interrupted
  | io (message : String)
  | other (message : String)
deriving DecidableEq, Repr

def EditorError.message : EditorError → String
  | .endOfInput => "EOF"
  | .interrupted => "Interrupted"
  | .io message => message
  | .other message => message

inductive Edited where
  | line (text : String)
  | endOfInput
  | interrupted
  | failure
deriving DecidableEq, Repr

def Edited.ofError : EditorError → Edited
  | .endOfInput => .endOfInput
  | .interrupted => .interrupted
  | .io _ => .failure
  | .other _ => .failure

def Edited.ofResult : Except EditorError String → Edited
  | .ok text => .line text
  | .error error => .ofError error

inductive Outcome where
  | line (text : String)
  | endOfInput
  | interrupted
  | unreadable
deriving DecidableEq, Repr

def lineEnd : UInt8 := 10

def carriageReturn : UInt8 := 13

def takeLine : List UInt8 → List UInt8 × Bool × List UInt8
  | [] => ([], false, [])
  | byte :: rest =>
    if byte = lineEnd then ([], true, rest)
    else
      let (line, ended, left) := takeLine rest
      (byte :: line, ended, left)

def dropReturn (line : List UInt8) : List UInt8 :=
  if line.getLast? = some carriageReturn then line.dropLast else line

/-- What a line of bytes says. A carriage return belongs to the line unless a line end follows. -/
def lineOutcome (line : List UInt8) (ended : Bool) : Outcome :=
  match Text.decode? (if ended then dropReturn line else line) with
  | some text => .line text
  | none => .unreadable

def readPlain : List UInt8 → Outcome × List UInt8
  | [] => (.endOfInput, [])
  | bytes =>
    let (line, ended, rest) := takeLine bytes
    (lineOutcome line ended, rest)

structure Input where
  editor : Option (List Edited)
  plain : List UInt8

namespace Input

def ofBytes (bytes : List UInt8) : Input := ⟨none, bytes⟩

def size (input : Input) : Nat := (input.editor.getD []).length + input.plain.length

end Input

structure Read where
  outcome : Outcome
  prompted : Bool
  next : Input

def Input.readPlain (input : Input) : Read :=
  let (outcome, rest) := Session.readPlain input.plain
  ⟨outcome, true, .ofBytes rest⟩

def Input.read (input : Input) : Read :=
  match input.editor with
  | none => input.readPlain
  | some [] => ⟨.endOfInput, false, input⟩
  | some (.line text :: rest) => ⟨.line text, false, { input with editor := some rest }⟩
  | some (.endOfInput :: rest) => ⟨.endOfInput, false, { input with editor := some rest }⟩
  | some (.interrupted :: rest) => ⟨.interrupted, false, { input with editor := some rest }⟩
  | some (.failure :: _) => input.readPlain

theorem length_takeLine_le (bytes : List UInt8) :
    (takeLine bytes).2.2.length ≤ bytes.length := by
  induction bytes with
  | nil => simp [takeLine]
  | cons byte rest ih =>
    rw [takeLine]
    split
    · simp
    · exact Nat.le_succ_of_le ih

theorem length_takeLine_lt {bytes : List UInt8} (h : bytes ≠ []) :
    (takeLine bytes).2.2.length < bytes.length := by
  cases bytes with
  | nil => exact absurd rfl h
  | cons byte rest =>
    rw [takeLine]
    split
    · simp
    · exact Nat.lt_succ_of_le (length_takeLine_le rest)

theorem Input.size_readPlain_lt {input : Input}
    (h : input.readPlain.outcome ≠ .endOfInput) :
    input.readPlain.next.size < input.plain.length := by
  obtain ⟨editor, plain⟩ := input
  cases plain with
  | nil => exact absurd rfl h
  | cons byte rest =>
    have := length_takeLine_lt (List.cons_ne_nil byte rest)
    simpa [Input.readPlain, Session.readPlain, Input.ofBytes, Input.size] using this

theorem Input.size_read_lt {input : Input} (h : input.read.outcome ≠ .endOfInput) :
    input.read.next.size < input.size := by
  obtain ⟨editor, plain⟩ := input
  match editor with
  | none => simpa [Input.read, Input.size] using Input.size_readPlain_lt h
  | some [] => exact absurd rfl h
  | some (.line text :: rest) => simp [Input.read, Input.size]
  | some (.endOfInput :: rest) => exact absurd rfl h
  | some (.interrupted :: rest) => simp [Input.read, Input.size]
  | some (.failure :: rest) =>
    have := @Input.size_readPlain_lt ⟨some (.failure :: rest), plain⟩ h
    simp only [Input.size, Option.getD_some, Input.read] at this ⊢
    omega

end Parlor.Session
