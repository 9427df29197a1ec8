import Parlor.Text.Lowercase
import Parlor.Text.Space

namespace Parlor

open Text

inductive Command where
  | look
  | inventory
  | help
  | quit
  | moveTo (direction : String)
  | take (item : String)
  | useItem (item : String)
  | unknown
deriving DecidableEq, Repr

namespace Command

def ofWords : List String → Command
  | ["look"] => look
  | ["inventory"] => inventory
  | ["inv"] => inventory
  | ["help"] => help
  | ["?"] => help
  | ["quit"] => quit
  | ["exit"] => quit
  | "go" :: word :: words => moveTo (" ".intercalate (word :: words))
  | "take" :: word :: words => take (" ".intercalate (word :: words))
  | "use" :: word :: words => useItem (" ".intercalate (word :: words))
  | _ => unknown

def parse (line : String) : Command :=
  ofWords ((words line.toList).map fun word => String.ofList (lowercase word))

end Command

end Parlor
