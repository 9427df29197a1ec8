import Parlor.File
import Parlor.Help.Entry
import Parlor.Toml.Document

namespace Parlor

inductive HelpError where
  | unreadable (path : String) (fault : FileFault)
  | malformed (path : String)
deriving DecidableEq, Repr

namespace HelpError

def message : HelpError → String
  | unreadable path _ => "reading help commands from '" ++ path ++ "'"
  | malformed path => "parsing help commands from '" ++ path ++ "'"

def causes : HelpError → List String
  | unreadable _ fault => [fault.message]
  | malformed _ => []

end HelpError

namespace HelpEntry

def text? (members : Toml.Members) (key : String) : Option String :=
  match members.lookup key with
  | some (.text text) => some text
  | _ => none

def ofMembers? (members : Toml.Members) : Option HelpEntry := do
  pure ⟨← text? members "command", ← text? members "description"⟩

/-- A command from a table, or from a list that begins with its two texts. -/
def ofValue? : Toml.Value → Option HelpEntry
  | .table _ members => ofMembers? members
  | .list (.text command :: .text description :: _) => some ⟨command, description⟩
  | _ => none

def ofDocument? (members : Toml.Members) : Option (List HelpEntry) :=
  match members.lookup "commands" with
  | some (.list items) => items.mapM ofValue?
  | some (.tables elements) => elements.mapM ofMembers?
  | _ => none

def parse? (text : String) : Option (List HelpEntry) := Toml.parse? text >>= ofDocument?

def load (path : String) (node : FileNode) : Except HelpError (List HelpEntry) :=
  match node.readText with
  | .error fault => .error (.unreadable path fault)
  | .ok text =>
    match parse? text with
    | some entries => .ok entries
    | none => .error (.malformed path)

def loadOrBuiltIn (path : String) (node : FileNode) : List HelpEntry :=
  match load path node with
  | .ok entries => entries
  | .error _ => builtIn

end HelpEntry

end Parlor
