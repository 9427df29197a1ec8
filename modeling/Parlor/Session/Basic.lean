import Parlor.Layout.Paragraph
import Parlor.Layout.Style
import Parlor.Session.Input
import Parlor.Turn

namespace Parlor.Session

structure Console where
  coloured : Bool
  width : Nat
deriving DecidableEq, Repr

namespace Console

def prompt (console : Console) : String := Style.prompt.apply console.coloured "> "

def reply (console : Console) : Except Fault String → String
  | .ok text =>
    Style.description.apply console.coloured (Layout.wrap console.width text) ++ "\n"
  | .error fault => Style.error.apply console.coloured fault.message ++ "\n"

def canceled : String := "Command canceled.\n"

def unreadable (console : Console) : String :=
  Style.error.apply console.coloured "Failed to read input. Try again." ++ "\n"

end Console

structure Exchange where
  prompted : Bool
  printed : String
deriving DecidableEq, Repr

def quitLine : String := "quit"

structure Response where
  printed : String
  world : World
  goesOn : Bool

def respond (console : Console) (help : List HelpEntry) (world : World) : Outcome → Response
  | .endOfInput =>
    let turn := world.answer help quitLine
    ⟨console.reply turn.reply, turn.world, false⟩
  | .interrupted => ⟨Console.canceled, world, true⟩
  | .unreadable => ⟨console.unreadable, world, true⟩
  | .line text =>
    let turn := world.answer help text
    ⟨console.reply turn.reply, turn.world, Command.parse text ≠ .quit⟩

theorem ne_endOfInput_of_goesOn {console : Console} {help : List HelpEntry} {world : World}
    {outcome : Outcome} (h : (respond console help world outcome).goesOn = true) :
    outcome ≠ .endOfInput := by
  rintro rfl
  simp [respond] at h

/-- Plays until a line asks to quit: what is printed, and the world at the end. -/
def play (console : Console) (help : List HelpEntry) (world : World) (input : Input) :
    List Exchange × World :=
  let read := input.read
  let response := respond console help world read.outcome
  let exchange : Exchange := ⟨read.prompted, response.printed⟩
  if _goesOn : response.goesOn then
    let (exchanges, last) := play console help response.world read.next
    (exchange :: exchanges, last)
  else ([exchange], response.world)
termination_by input.size
decreasing_by exact Input.size_read_lt (ne_endOfInput_of_goesOn _goesOn)

def Console.transcript (console : Console) (exchange : Exchange) : String :=
  (if exchange.prompted then console.prompt else "") ++ exchange.printed

def Console.output (console : Console) (exchanges : List Exchange) : String :=
  String.join (exchanges.map console.transcript)

/-- What a console shows behind each edited line: one text for every line that the editor
delivered, and one for everything after the editor broke. -/
def Console.outputs (console : Console) (exchanges : List Exchange) : List String :=
  let edited := exchanges.takeWhile fun exchange => !exchange.prompted
  let plain := exchanges.dropWhile fun exchange => !exchange.prompted
  edited.map Exchange.printed ++ if plain.isEmpty then [] else [console.output plain]

end Parlor.Session
