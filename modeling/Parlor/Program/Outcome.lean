namespace Parlor.Program

structure Outcome where
  code : Nat
  stdout : String
  stderr : String
deriving DecidableEq, Repr

structure Failure where
  message : String
  causes : List String
deriving DecidableEq, Repr

namespace Failure

def indented (margin text : String) : String := ("\n" ++ margin).intercalate (text.splitOn "\n")

def numbered (number : Nat) (cause : String) : String :=
  let digits := toString number
  String.ofList (List.replicate (5 - digits.length) ' ') ++ digits ++ ": " ++
    indented "       " cause

def causeLines : List String → List String
  | [cause] => ["    " ++ indented "    " cause]
  | causes => causes.zipIdx.map fun entry => numbered entry.2 entry.1

def report (failure : Failure) : String :=
  let causes :=
    if failure.causes.isEmpty then ""
    else "\n\nCaused by:\n" ++ "\n".intercalate (causeLines failure.causes)
  "Error: " ++ failure.message ++ causes ++ "\n"

def outcome (failure : Failure) (stdout : String) : Outcome := ⟨1, stdout, failure.report⟩

end Failure

end Parlor.Program
