import Parlor.Program.Run

namespace Parlor.Program

def findFile (path : String) : IO FileNode := do
  try
    pure (.file (← IO.FS.readBinFile path).toList)
  catch
    | .inappropriateType _ 21 _ => pure .directory
    | .inappropriateType _ _ _ => pure .blocked
    | .noFileOrDirectory _ 20 _ => pure .blocked
    | .invalidArgument _ _ _ => pure .tooLong
    | _ => pure .absent

def findFiles (paths : List String) : IO Files := do
  let found ← paths.mapM fun path => do pure (path, ← findFile path)
  pure fun path => (found.lookup path).getD .absent

partial def readBytes (input : IO.FS.Stream) (line : List UInt8) : IO (List UInt8 × Bool) := do
  match (← input.read 1).toList with
  | byte :: _ =>
    if byte = Session.lineEnd then pure (line.reverse, true) else readBytes input (byte :: line)
  | [] => pure (line.reverse, false)

def readOutcome (input : IO.FS.Stream) : IO Session.Outcome := do
  match ← readBytes input [] with
  | ([], false) => pure .endOfInput
  | (line, ended) => pure (Session.lineOutcome line ended)

def display (text : String) : IO Unit := do
  let output ← IO.getStdout
  output.putStr text
  output.flush

partial def playOn (help : List HelpEntry) (world : World) : IO Unit := do
  display Adventure.console.prompt
  let outcome ← readOutcome (← IO.getStdin)
  let response := Session.respond Adventure.console help world outcome
  display response.printed
  if response.goesOn then playOn help response.world

def orFail {α : Type} (result : Except Failure α) : ExceptT Failure IO α := ExceptT.mk (pure result)

def askAloud (question : String) : ExceptT Failure IO String := do
  let input ← IO.getStdin
  if ← input.isTty then display question
  let outcome ← readOutcome input
  orFail (Storytelling.answer outcome)

def runAloud (program : Program) (files : Files) (folder path : String) :
    ExceptT Failure IO Unit := do
  match program with
  | .adventure =>
    let beginning ← orFail (Adventure.begin? files folder path)
    display beginning.greeting
    playOn beginning.help beginning.world
  | .story =>
    let template ← orFail (Storytelling.template files path)
    let answers ← Story.collect askAloud (Story.blanks template)
    display (Storytelling.told template answers)

def Outcome.print (outcome : Outcome) : IO UInt32 := do
  display outcome.stdout
  (← IO.getStderr).putStr outcome.stderr
  pure outcome.code.toUInt32

def start (program : Program) (arguments : List String) : IO UInt32 := do
  let places ← findFiles (bundlePlaces [] program.name)
  let folder := bundle places.isFolder [] program.name
  match Request.parse arguments with
  | .run path =>
    let path := program.pathOr folder path
    let files ← findFiles [path, Adventure.helpPath folder]
    match ← (runAloud program files folder path).run with
    | .ok _ => pure 0
    | .error failure => (failure.outcome "").print
  | request => (program.carryOut places folder [] request).print

end Parlor.Program

def main (arguments : List String) : IO UInt32 := do
  match arguments with
  | "adventure" :: rest => Parlor.Program.start .adventure rest
  | "story" :: rest => Parlor.Program.start .story rest
  | _ =>
    (← IO.getStderr).putStrLn "Usage: parlor (adventure | story) [ARGUMENT]"
    pure 2
