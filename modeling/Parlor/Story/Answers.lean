import Parlor.Map.Sorted
import Parlor.Story.Blank

namespace Parlor.Story

abbrev Answers := SortedMap String

def unnumberedKey (place : Nat) : String := "unnumbered_" ++ toString place

/-- The name under which a blank finds its answer, after the given number of unnumbered blanks. -/
def Blank.key (unnumbered : Nat) : Blank → String
  | .numbered id _ => id
  | .unnumbered _ => unnumberedKey unnumbered
  | .reference id => id

def Blank.advance (unnumbered : Nat) : Blank → Nat
  | .unnumbered _ => unnumbered + 1
  | _ => unnumbered

def startsWithVowel (label : String) : Bool :=
  label.toList.head?.any fun c => c.toLower ∈ ['a', 'e', 'i', 'o', 'u']

def article (label : String) : String := if startsWithVowel label then "an" else "a"

def promptText (label : String) : String := "Enter " ++ article label ++ " " ++ label ++ ": "

/-- Asks for the answers that the blanks need, in order: each unnumbered blank has a question of
its own, a numbered blank has one if its number has no answer yet, and a reference has none. -/
def collectFrom {m : Type → Type} [Monad m] (ask : String → m String) (answers : Answers)
    (unnumbered : Nat) : List Blank → m Answers
  | [] => pure answers
  | .numbered id label :: rest =>
    if answers.contains id then collectFrom ask answers unnumbered rest
    else do
      let answer ← ask (promptText label)
      collectFrom ask (answers.insert id answer) unnumbered rest
  | .unnumbered label :: rest => do
    let answer ← ask (promptText label)
    collectFrom ask (answers.insert (unnumberedKey unnumbered) answer) (unnumbered + 1) rest
  | .reference _ :: rest => collectFrom ask answers unnumbered rest

def collect {m : Type → Type} [Monad m] (ask : String → m String) (blanks : List Blank) :
    m Answers :=
  collectFrom ask .empty 0 blanks

end Parlor.Story
