import Parlor.Game.Loading
import Parlor.Help.File
import Parlor.Program.Files
import Parlor.Program.Outcome
import Parlor.Session.Basic

namespace Parlor.Program.Adventure

structure Beginning where
  world : World
  help : List HelpEntry
  greeting : String

def loadFailure (error : LoadError) : Failure :=
  ⟨"while loading game", error.message :: error.causes⟩

def helpPath (folder : String) : String := join folder "help_commands.toml"

def begin? (files : Files) (folder path : String) : Except Failure Beginning := do
  let world ← (Game.load path (files path)).mapError loadFailure
  let view ← world.surroundings.mapError fun fault => ⟨fault.message, []⟩
  let help := HelpEntry.loadOrBuiltIn (helpPath folder) (files (helpPath folder))
  pure ⟨world, help, "Welcome to RAMBLE!\n" ++ view ++ "\n"⟩

def console : Session.Console := ⟨false, 80⟩

def run (files : Files) (folder path : String) (input : List UInt8) : Outcome :=
  match begin? files folder path with
  | .error failure => failure.outcome ""
  | .ok beginning =>
    let (exchanges, _) :=
      Session.play console beginning.help beginning.world (.ofBytes input)
    ⟨0, beginning.greeting ++ console.output exchanges, ""⟩

end Parlor.Program.Adventure
