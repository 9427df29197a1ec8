import Parlor.Text.Bytes
import Parlor.Text.Lowercase
import Parlor.Text.Space

namespace Parlor.Completion

open Text

def commandWords : List String :=
  ["exit", "go", "help", "inv", "inventory", "look", "quit", "take", "use"]

def typed (before : List Char) : List Char := trimStart before

def start (before : List Char) : Nat := byteLength before - byteLength (typed before)

def candidates (before : List Char) : List String :=
  if (typed before).isEmpty || (typed before).any isSpace then []
  else commandWords.filter fun word => (lowercase (typed before)).isPrefixOf word.toList

def replace (before : List Char) (word : String) : List Char :=
  before.takeWhile isSpace ++ word.toList

end Parlor.Completion
