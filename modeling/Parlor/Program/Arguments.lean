import Parlor.Text.Plain
import Parlor.Text.Similarity

namespace Parlor

inductive Program where
  | adventure
  | story
deriving DecidableEq, Repr

namespace Program

def name : Program → String
  | adventure => "ramble_engine"
  | story => "ramble_libs"

def about : Program → String
  | adventure => "Explore a room graph one command at a time"
  | story => "Fill in the blanks of a story template"

def pathName : Program → String
  | adventure => "GAME"
  | story => "STORY"

def argument (program : Program) : String := "[" ++ program.pathName ++ "]"

def argumentHelp : Program → String
  | adventure => "Game definition to play (defaults to the bundled game.json)"
  | story => "Story template to fill (defaults to the bundled sample story)"

def bundledFile : Program → String
  | adventure => "game.json"
  | story => "sample_story.txt"

inductive Topic where
  | help
  | version
deriving DecidableEq, Repr

namespace Topic

def word : Topic → String
  | help => "help"
  | version => "version"

def letter : Topic → Char
  | help => 'h'
  | version => 'V'

def all : List Topic := [help, version]

def ofWord? (word : String) : Option Topic := all.find? (·.word = word)

def ofLetter? (letter : Char) : Option Topic := all.find? (·.letter = letter)

def closeness : Float := 0.7

def resembling? (word : String) : Option Topic :=
  match Text.mostSimilar word (all.map Topic.word) with
  | some (best, value) => if closeness < value then ofWord? best else none
  | none => none

end Topic

def longOption (word : String) : String := "--" ++ word

def shortOption (letter : Char) : String := String.ofList ['-', letter]

def usageOf (program : Program) (words : List String) (path : String) : String :=
  "Usage: " ++ " ".intercalate (program.name :: words.map longOption ++ [path]) ++ "\n"

def usage (program : Program) : String := program.usageOf [] program.argument

def versionText (program : Program) : String := program.name ++ " 0.3.0\n"

def helpText (program : Program) : String :=
  program.about ++ "\n\n" ++ program.usage ++ "\nArguments:\n  " ++ program.argument ++ "  " ++
    program.argumentHelp ++
    "\n\nOptions:\n  -h, --help     Print help\n  -V, --version  Print version\n"

inductive ArgumentFault where
  | extraPath (argument : String)
  | unknownWord (word : String) (afterPath : Bool)
  | unknownLetter (letter : Char)
  | needlessValue (topic : Topic) (value : String)
  | emptyPath
deriving DecidableEq, Repr

namespace ArgumentFault

def unexpected (argument tip usage : String) : String :=
  "unexpected argument '" ++ Text.plain argument ++ "' found\n\n" ++ tip ++ usage

def valueTip (option : String) : String :=
  let option := Text.plain option
  "  tip: to pass '" ++ option ++ "' as a value, use '-- " ++ option ++ "'\n\n"

def topicTip (topic : Topic) : String :=
  "  tip: a similar argument exists: '" ++ longOption topic.word ++ "'\n\n"

def detail (program : Program) : ArgumentFault → String
  | extraPath argument => unexpected argument "" program.usage
  | unknownWord word afterPath =>
    let path := if afterPath then "<" ++ program.pathName ++ ">" else program.argument
    let option := longOption word
    match Topic.resembling? word with
    | some topic => unexpected option (topicTip topic) (program.usageOf [topic.word] path)
    | none => unexpected option (valueTip option) (program.usageOf [] path)
  | unknownLetter letter =>
    let option := shortOption letter
    unexpected option (valueTip option) program.usage
  | needlessValue topic value =>
    "unexpected value '" ++ Text.plain value ++ "' for '" ++ longOption topic.word ++
      "' found; no more were expected\n\n" ++ program.usageOf [topic.word] program.argument
  | emptyPath => "a value is required for '" ++ program.argument ++ "' but none was supplied\n"

def message (program : Program) (fault : ArgumentFault) : String :=
  "error: " ++ fault.detail program ++ "\nFor more information, try '--help'.\n"

end ArgumentFault

inductive Request where
  | run (path : Option String)
  | tell (topic : Topic)
  | refuse (fault : ArgumentFault)
deriving DecidableEq, Repr

namespace Request

def checked (path : Option String) (request : Request) : Request :=
  if path = some "" then refuse .emptyPath else request

def ofWord (path : Option String) (word : String) (value : Option String) : Request :=
  match Topic.ofWord? word, value with
  | some topic, none => checked path (tell topic)
  | some topic, some value => refuse (.needlessValue topic value)
  | none, _ => refuse (.unknownWord word path.isSome)

def ofLetter (path : Option String) (letter : Char) : Request :=
  match Topic.ofLetter? letter with
  | some topic => checked path (tell topic)
  | none => refuse (.unknownLetter letter)

/-- What an option asks for, behind a path or none. An option is a word behind two hyphens, which
goes as far as a sign of equality, or a letter behind one hyphen. Other arguments are no options. -/
def ofOption? (path : Option String) (argument : String) : Option Request :=
  match argument.toList with
  | '-' :: '-' :: text =>
    let word := String.ofList (text.takeWhile (· ≠ '='))
    match text.dropWhile (· ≠ '=') with
    | _ :: value => some (ofWord path word (some (String.ofList value)))
    | [] => some (ofWord path word none)
  | '-' :: letter :: _ => some (ofLetter path letter)
  | _ => none

def parseFrom (options : Bool) (path : Option String) : List String → Request
  | [] => checked path (run path)
  | argument :: rest =>
    if options && argument = "--" then parseFrom false path rest
    else
      match if options then ofOption? path argument else none, path with
      | some request, _ => request
      | none, some _ => refuse (.extraPath argument)
      | none, none => parseFrom options (some argument) rest

def parse (arguments : List String) : Request := parseFrom true none arguments

end Request

end Program

end Parlor
