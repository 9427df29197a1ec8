namespace Parlor

structure HelpEntry where
  command : String
  description : String
deriving DecidableEq, Repr

namespace HelpEntry

def builtIn : List HelpEntry :=
  [⟨"go <direction>", "Move through an exit."⟩,
    ⟨"take <item>", "Pick something up."⟩,
    ⟨"use <item>", "Try to use an item."⟩,
    ⟨"look", "Describe your surroundings again."⟩,
    ⟨"inventory", "List what you're carrying."⟩,
    ⟨"help", "Show this list."⟩,
    ⟨"quit", "Leave the game."⟩]

def columnWidth (entries : List HelpEntry) : Nat :=
  (entries.map (·.command.utf8ByteSize)).foldl max 0

def padded (width : Nat) (text : String) : String :=
  text ++ String.ofList (List.replicate (width - text.length) ' ')

def listText (entries : List HelpEntry) : String :=
  "Commands:" ++ String.join (entries.map fun entry =>
    "\n  " ++ padded (columnWidth entries) entry.command ++ "  " ++ entry.description)

end HelpEntry

end Parlor
