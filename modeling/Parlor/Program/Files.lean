import Parlor.File

namespace Parlor.Program

abbrev Files := String → FileNode

def join (folder path : String) : String :=
  if path.startsWith "/" then path
  else if folder.isEmpty || folder.endsWith "/" then folder ++ path
  else folder ++ "/" ++ path

/-- The places of the bundled files of a program with a home folder: below the working folder, and
below the folders in which the program itself lies. -/
def bundlePlaces (around : List String) (home : String) : List String :=
  let nested := join home "data"
  nested :: "data" :: around.flatMap fun folder => [join folder nested, join folder "data"]

def bundle (isFolder : String → Bool) (around : List String) (home : String) : String :=
  ((bundlePlaces around home).find? isFolder).getD (join home "data")

def Files.isFolder (files : Files) (path : String) : Bool := files path = .directory

structure FileTree where
  files : List (String × List UInt8)
  folders : List String

inductive Place where
  | below (names : List String)
  | above (levels : Nat)
  | fromRoot (names : List String)
  | unknown
deriving DecidableEq, Repr

namespace Place

/-- The number of levels at which the root is taken to be reached from the working folder. -/
def rootLevel : Nat := 8

def enter (name : String) : Place → Place
  | below names => below (names ++ [name])
  | fromRoot names => fromRoot (names ++ [name])
  | above levels => if levels < rootLevel then unknown else fromRoot [name]
  | unknown => unknown

def leave : Place → Place
  | below [] => above 1
  | above levels => above (levels + 1)
  | below names => below names.dropLast
  | fromRoot names => fromRoot names.dropLast
  | unknown => unknown

end Place

def longestName : Nat := 255

def longestPath : Nat := 4095

namespace FileTree

def parts (path : String) : List String := path.splitOn "/"

def systemFolders : List (String × List String) :=
  [("bin", []), ("boot", []), ("dev", ["fd", "pts", "shm"]), ("etc", []), ("home", []),
    ("lib", []), ("lib64", []), ("media", []), ("mnt", []), ("opt", []), ("proc", ["self", "sys"]),
    ("root", []), ("run", []), ("sbin", []), ("srv", []), ("sys", ["class", "devices"]),
    ("tmp", []), ("usr", ["bin", "lib", "local", "sbin", "share"]),
    ("var", ["cache", "lib", "log", "tmp"])]

def rootNode : List String → FileNode
  | [] => .directory
  | ["dev", "null"] => .file []
  | ["dev", "stdin"] | ["dev", "fd", "0"] | ["proc", "self", "fd", "0"] => .ownInput
  | [name] => if (systemFolders.lookup name).isSome then .directory else .absent
  | [first, second] =>
    if ((systemFolders.lookup first).getD []).contains second then .directory else .absent
  | _ => .absent

def stepTo (names : List String) (name : String) : List String :=
  if name = "" || name = "." then names
  else if name = ".." then names.dropLast
  else names ++ [name]

def passed (path : String) : List (List String) :=
  (parts path).foldl (fun places name => stepTo (places.headD []) name :: places) [[]]

def ownNode (tree : FileTree) (names : List String) : FileNode :=
  match tree.files.find? fun file => (passed file.1).head? = some names with
  | some file => .file file.2
  | none =>
    let paths := tree.folders ++ tree.files.map Prod.fst
    if names.isEmpty || paths.any (fun path => (passed path).any names.isPrefixOf) then .directory
    else .absent

def node (tree : FileTree) : Place → FileNode
  | .below names => tree.ownNode names
  | .above _ => .directory
  | .fromRoot names => rootNode names
  | .unknown => .absent

def walk (tree : FileTree) (place : Place) : List String → FileNode
  | [] => tree.node place
  | name :: names =>
    match tree.node place with
    | .directory =>
      if name = "" || name = "." then walk tree place names
      else if name = ".." then walk tree place.leave names
      else if longestName < name.utf8ByteSize then .tooLong
      else walk tree (place.enter name) names
    | .file _ | .ownInput => .blocked
    | other => other

def lookup (tree : FileTree) : Files := fun path =>
  if path.isEmpty then .absent
  else if longestPath < path.utf8ByteSize then .tooLong
  else tree.walk (if path.startsWith "/" then .fromRoot [] else .below []) (parts path)

end FileTree

end Parlor.Program
