import Parlor.Layout.Paragraph
import Parlor.Program.Files
import Parlor.Program.Outcome
import Parlor.Session.Input
import Parlor.Story.Fill

namespace Parlor.Program.Storytelling

def width : Nat := 80

def template (files : Files) (path : String) : Except Failure String :=
  (files path).readText.mapError fun fault =>
    ⟨"reading story template from '" ++ path ++ "'", [fault.message]⟩

def answer : Session.Outcome → Except Failure String
  | .line text => .ok text
  | .endOfInput | .interrupted => .error ⟨"input ended before every blank was filled", []⟩
  | .unreadable =>
    .error ⟨"while reading an answer", [FileFault.notText.message, FileFault.notText.message]⟩

abbrev Asking := StateT (List UInt8) (Except Failure)

def ask (_question : String) : Asking String := do
  let (outcome, rest) := Session.readPlain (← get)
  set rest
  answer outcome

def told (template : String) (answers : Story.Answers) : String :=
  "\nYour completed story:\n\n" ++ Layout.wrap width (Story.fill template answers) ++ "\n"

def run (files : Files) (path : String) (input : List UInt8) : Outcome :=
  let completed : Except Failure String := do
    let template ← template files path
    let (answers, _) ← (Story.collect ask (Story.blanks template)).run input
    pure (told template answers)
  match completed with
  | .ok text => ⟨0, text, ""⟩
  | .error failure => failure.outcome ""

end Parlor.Program.Storytelling
