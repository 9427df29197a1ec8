import Parlor.Text.Encoding

namespace Parlor

inductive FileNode where
  | absent
  | blocked
  | tooLong
  | directory
  | ownInput
  | file (bytes : List UInt8)
deriving DecidableEq, Repr

inductive FileFault where
  | notFound
  | notDirectory
  | isDirectory
  | nameTooLong
  | notText
deriving DecidableEq, Repr

def FileFault.message : FileFault → String
  | .notFound => "No such file or directory (os error 2)"
  | .notDirectory => "Not a directory (os error 20)"
  | .isDirectory => "Is a directory (os error 21)"
  | .nameTooLong => "File name too long (os error 36)"
  | .notText => "stream did not contain valid UTF-8"

def FileNode.readText : FileNode → Except FileFault String
  | .absent => .error .notFound
  | .blocked => .error .notDirectory
  | .tooLong => .error .nameTooLong
  | .directory => .error .isDirectory
  | .ownInput => .ok ""
  | .file bytes =>
    match Text.decode? bytes with
    | some text => .ok text
    | none => .error .notText

end Parlor
