import Parlor.Program.Adventure
import Parlor.Program.Arguments
import Parlor.Program.Storytelling

namespace Parlor.Program

def pathOr (program : Program) (folder : String) (path : Option String) : String :=
  path.getD (join folder program.bundledFile)

/-- The files and the input of a program that first reads the file at a path. If the path leads to
the program's own input, all of that is the file, and no lines are left. -/
def readingFirst (files : Files) (path : String) (input : List UInt8) : Files × List UInt8 :=
  match files path with
  | .ownInput => (fun other => if other = path then .file input else files other, [])
  | _ => (files, input)

def carryOut (program : Program) (files : Files) (folder : String) (input : List UInt8) :
    Request → Outcome
  | .tell .help => ⟨0, program.helpText, ""⟩
  | .tell .version => ⟨0, program.versionText, ""⟩
  | .refuse fault => ⟨2, "", fault.message program⟩
  | .run path =>
    let path := program.pathOr folder path
    let (files, input) := readingFirst files path input
    match program with
    | .adventure => Adventure.run files folder path input
    | .story => Storytelling.run files path input

def run (program : Program) (files : Files) (arguments : List String) (input : List UInt8) :
    Outcome :=
  let folder := bundle files.isFolder [] program.name
  program.carryOut files folder input (.parse arguments)

end Parlor.Program
