import Parlor.File
import Parlor.Game.Build
import Parlor.Game.Reader

namespace Parlor

inductive LoadError where
  | unreadable (path : String) (fault : FileFault)
  | malformed (path : String) (error : Json.Error)
  | invalid (problems : List Problem)
deriving DecidableEq, Repr

namespace LoadError

def message : LoadError → String
  | unreadable path _ => "reading game data from '" ++ path ++ "'"
  | malformed path _ => "parsing game data from '" ++ path ++ "'"
  | invalid problems =>
    "game definition validation failed:" ++
      String.join (problems.map fun problem => "\n- " ++ problem.message)

def causes : LoadError → List String
  | unreadable _ fault => [fault.message]
  | malformed _ error => [error.message]
  | invalid _ => []

end LoadError

namespace Game

def start (game : GameDefinition) : Except LoadError World :=
  match game.build with
  | .ok world => .ok world
  | .error problems => .error (.invalid problems)

def load (path : String) (node : FileNode) : Except LoadError World :=
  match node.readText with
  | .error fault => .error (.unreadable path fault)
  | .ok text =>
    match parse text with
    | .error error => .error (.malformed path error)
    | .ok game => start game

end Game

end Parlor
