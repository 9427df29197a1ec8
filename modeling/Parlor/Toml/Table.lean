/-!
# Tables

Keys with values. A table comes to be by a header of its own, on the way to a table with a longer
header, by a key with dots, or between braces. How it came to be decides whether it can be opened
again and whether a key with dots can add to it: nothing may be defined twice.
-/

namespace Parlor.Toml

inductive Origin where
  | header
  | passage
  | dotted
  | braces
deriving DecidableEq, Repr

inductive Value where
  | text (value : String)
  | scalar
  | list (items : List Value)
  | table (origin : Origin) (members : List (String × Value))
  | tables (elements : List (List (String × Value)))

abbrev Members := List (String × Value)

structure Key where
  path : List String
  last : String
deriving DecidableEq, Repr

namespace Members

def put (members : Members) (key : String) (value : Value) : Members :=
  if (members.lookup key).isSome then
    members.map fun member => if member.1 = key then (key, value) else member
  else members ++ [(key, value)]

def changeLast (change : Members → Option Members) : List Members → Option (List Members)
  | [] => none
  | [last] => (change last).map ([·])
  | first :: rest => (changeLast change rest).map (first :: ·)

/-- Changes the table to which the parts of a header lead. Tables on the way are made if need be;
of several tables with the same header the last is meant. -/
def under (change : Members → Option Members) : List String → Members → Option Members
  | [], members => change members
  | key :: path, members => do
    let value ← match members.lookup key with
      | none => (under change path []).map (.table .passage)
      | some (.table .braces _) => none
      | some (.table origin inner) => (under change path inner).map (.table origin)
      | some (.tables elements) => (changeLast (under change path) elements).map .tables
      | some _ => none
    pure (members.put key value)

/-- Changes the table to which the parts of a key with dots lead. A table that was not made by a
key with dots can only be passed on the way to one that was, and not at all if it has a header of
its own or stands between braces. -/
def along (change : Members → Option Members) : List String → Members → Option Members
  | [], members => change members
  | key :: path, members => do
    let value ← match members.lookup key with
      | none => (along change path []).map (.table .dotted)
      | some (.table .dotted inner) => (along change path inner).map (.table .dotted)
      | some (.table .passage inner) =>
        if path.isEmpty then none else (along change path inner).map (.table .passage)
      | some (.tables elements) =>
        if path.isEmpty then none else (changeLast (along change path) elements).map .tables
      | some _ => none
    pure (members.put key value)

def define (members : Members) (key : Key) (value : Value) : Option Members :=
  along (fun inner =>
    if (inner.lookup key.last).isSome then none else some (inner.put key.last value))
    key.path members

def openTable (members : Members) (header : Key) : Option Members :=
  under (fun inner =>
    match inner.lookup header.last with
    | none => some (inner.put header.last (.table .header []))
    | some (.table .passage found) => some (inner.put header.last (.table .header found))
    | some _ => none)
    header.path members

def openElement (members : Members) (header : Key) : Option Members :=
  under (fun inner =>
    match inner.lookup header.last with
    | none => some (inner.put header.last (.tables [[]]))
    | some (.tables elements) => some (inner.put header.last (.tables (elements ++ [[]])))
    | some _ => none)
    header.path members

end Members

end Parlor.Toml
