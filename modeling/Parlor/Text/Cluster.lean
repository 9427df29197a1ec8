import Parlor.Text.ClusterTable
import Parlor.Text.Ranges

namespace Parlor.Text

inductive ClusterClass where
  | carriageReturn
  | lineFeed
  | control
  | extend
  | linker
  | joiner
  | nonJoiner
  | spacing
  | prepend
  | regional
  | leading
  | vowel (whole : Bool)
  | trailing (whole : Bool)
  | pictograph
  | consonant
  | other
deriving DecidableEq, Repr

def liesIn (first last code : Nat) : Bool := first ≤ code && code ≤ last

/-- The class of the characters of syllable scripts. Whole syllables come in blocks of twenty-eight
with one trailing consonant each, the first of them without. -/
def syllableClass? (code : Nat) : Option ClusterClass :=
  if liesIn 0x1100 0x115f code || liesIn 0xa960 0xa97c code then some .leading
  else if liesIn 0x1160 0x11a7 code || liesIn 0xd7b0 0xd7c6 code || code = 0x16d63 ||
    liesIn 0x16d67 0x16d6a code then some (.vowel false)
  else if liesIn 0x11a8 0x11ff code || liesIn 0xd7cb 0xd7fb code then some (.trailing false)
  else if liesIn 0xac00 0xd7a3 code then
    if (code - 0xac00) % 28 = 0 then some (.vowel true) else some (.trailing true)
  else none

def clusterClass (c : Char) : ClusterClass :=
  let code := c.toNat
  if c = '\r' then .carriageReturn
  else if c = '\n' then .lineFeed
  else if c = '\u200d' then .joiner
  else if c = '\u200c' then .nonJoiner
  else if liesIn 0x1f1e6 0x1f1ff code then .regional
  else if linkers.contains code then .linker
  else if inRanges controlRanges code then .control
  else if inRanges extendRanges code then .extend
  else if inRanges spacingRanges code then .spacing
  else if inRanges prependRanges code then .prepend
  else if inRanges pictographRanges code then .pictograph
  else if inRanges consonantRanges code then .consonant
  else (syllableClass? code).getD .other

inductive ClusterEnd where
  | carriageReturn
  | closed
  | plain
  | prepend
  | regional
  | leading
  | vowel
  | trailing
  | pictograph
  | joined
  | consonant (linked : Bool)
deriving DecidableEq, Repr

def ClusterEnd.first : ClusterClass → ClusterEnd
  | .carriageReturn => carriageReturn
  | .lineFeed | .control => closed
  | .prepend => prepend
  | .regional => regional
  | .leading => leading
  | .vowel _ => vowel
  | .trailing _ => trailing
  | .pictograph => pictograph
  | .consonant => consonant false
  | .extend | .linker | .joiner | .nonJoiner | .spacing | .other => plain

def ClusterEnd.add? : ClusterEnd → ClusterClass → Option ClusterEnd
  | carriageReturn, .lineFeed => some closed
  | carriageReturn, _ | closed, _ => none
  | _, .carriageReturn | _, .lineFeed | _, .control => none
  | pictograph, .extend | pictograph, .linker | pictograph, .nonJoiner => some pictograph
  | pictograph, .joiner => some joined
  | consonant linked, .extend | consonant linked, .joiner => some (consonant linked)
  | consonant _, .linker => some (consonant true)
  | _, .extend | _, .linker | _, .joiner | _, .nonJoiner | _, .spacing => some plain
  | prepend, cls => some (first cls)
  | regional, .regional => some plain
  | leading, .leading => some leading
  | leading, .vowel _ => some vowel
  | leading, .trailing true => some trailing
  | vowel, .vowel false => some vowel
  | vowel, .trailing false | trailing, .trailing false => some trailing
  | joined, .pictograph => some pictograph
  | consonant true, .consonant => some (consonant false)
  | _, _ => none

def clustersFrom (last : ClusterEnd) (cluster : List Char) : List Char → List (List Char)
  | [] => [cluster.reverse]
  | c :: rest =>
    let cls := clusterClass c
    match last.add? cls with
    | some last => clustersFrom last (c :: cluster) rest
    | none => cluster.reverse :: clustersFrom (.first cls) [c] rest

def clusters : List Char → List (List Char)
  | [] => []
  | c :: rest => clustersFrom (.first (clusterClass c)) [c] rest

theorem flatten_clustersFrom (last : ClusterEnd) (cluster text : List Char) :
    (clustersFrom last cluster text).flatten = cluster.reverse ++ text := by
  induction text generalizing last cluster with
  | nil => simp [clustersFrom]
  | cons c rest ih =>
    rw [clustersFrom]
    split <;> simp [ih]

theorem flatten_clusters (text : List Char) : (clusters text).flatten = text := by
  cases text with
  | nil => rfl
  | cons c rest => simp [clusters, flatten_clustersFrom]

end Parlor.Text
