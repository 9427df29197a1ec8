import Parlor.Editor.Editing

namespace Parlor.Editor

structure Burst where
  bytes : List UInt8
  always : Bool
deriving DecidableEq, Repr

def burstsOf (typed : List (List UInt8)) : List Burst :=
  typed.map (⟨·, true⟩) ++ [⟨[3], false⟩, ⟨[4], false⟩]

def plainBytes (bursts : List Burst) : List UInt8 :=
  (bursts.filter Burst.always).flatMap Burst.bytes ++ Text.encode "quit\n"

/-- What the editor delivers for each burst, and the bytes that are typed after it has broken. The
bytes left of earlier bursts come first. -/
def deliver (history : History) (left : List UInt8) :
    List Burst → List Session.Edited × List UInt8
  | [] => ([], plainBytes [])
  | burst :: bursts =>
    let bytes := left ++ burst.bytes
    match (Editing.start history).type history bytes with
    | none => deliver history bytes bursts
    | some (result, rest) =>
      let edited := Session.Edited.ofResult result
      match edited with
      | .failure => ([edited], plainBytes bursts)
      | .line text =>
        let (delivered, plain) := deliver (history.add text) rest bursts
        (edited :: delivered, plain)
      | .endOfInput | .interrupted =>
        let (delivered, plain) := deliver history rest bursts
        (edited :: delivered, plain)

def terminalInput (typed : List (List UInt8)) : Session.Input :=
  let (delivered, plain) := deliver [] [] (burstsOf typed)
  ⟨some delivered, plain⟩

def columns (known : Nat) : Nat := if known = 0 then 80 else known

end Parlor.Editor
