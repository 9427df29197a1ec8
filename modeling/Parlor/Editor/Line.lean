import Parlor.Completion
import Parlor.Text.Cluster

namespace Parlor.Editor

structure Line where
  before : List Char
  after : List Char
deriving DecidableEq, Repr

namespace Line

def empty : Line := ⟨[], []⟩

def ofText (text : List Char) : Line := ⟨text.reverse, []⟩

def text (line : Line) : List Char := line.before.reverse ++ line.after

def insert (line : Line) (c : Char) : Line := ⟨c :: line.before, line.after⟩

def clustersBefore (line : Line) : List (List Char) := (Text.clusters line.before.reverse).reverse

def withBefore (line : Line) (clusters : List (List Char)) : Line :=
  ⟨clusters.reverse.flatten.reverse, line.after⟩

def backspace (line : Line) : Line := line.withBefore (line.clustersBefore.drop 1)

def delete (line : Line) : Line :=
  ⟨line.before, ((Text.clusters line.after).drop 1).flatten⟩

def deleteToStart (line : Line) : Line := ⟨[], line.after⟩

def deleteToEnd (line : Line) : Line := ⟨line.before, []⟩

def isGap (cluster : List Char) : Bool := cluster.any Text.isSpace

def deleteWord (line : Line) : Line :=
  line.withBefore ((line.clustersBefore.dropWhile isGap).dropWhile (!isGap ·))

def toStart (line : Line) : Line := ⟨[], line.text⟩

def toEnd (line : Line) : Line := .ofText line.text

def candidates (line : Line) : List String := Completion.candidates line.before.reverse

def complete (line : Line) (word : String) : Line :=
  ⟨(Completion.replace line.before.reverse word).reverse, line.after⟩

end Line

end Parlor.Editor
