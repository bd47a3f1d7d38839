import LineShell.Store
import LineShell.Pieces

/-!
# Variables in a list of entries

`Entries` is the environment as the operating system keeps it: a list of entries NAME=VALUE. The
first entry that begins with the name and an equals sign holds the variable, and setting it
replaces that entry.
-/

namespace LineShell

/-- Entries NAME=VALUE in the order in which their names were first set. -/
structure Entries where
  list : List Bytes
  deriving DecidableEq, Repr

namespace Entries

/-- The value in an entry, if the entry is for `name`. -/
def value? (name : Bytes) (entry : Bytes) : Option Bytes :=
  if (name ++ [Bytes.equals]).isPrefixOf entry then some (entry.drop (name.length + 1)) else none

/-- Replaces the first entry for `name`, or adds one at the end. -/
def update (name value : Bytes) : List Bytes → List Bytes
  | [] => [Store.entry name value]
  | e :: rest =>
    if (value? name e).isSome then Store.entry name value :: rest else e :: update name value rest

/-- Whether the entry has a name and a value; the equals sign that ends a name is never the first
byte. -/
def wellFormed (entry : Bytes) : Bool := entry.tail.contains Bytes.equals

def empty : Entries := ⟨[]⟩

def get (entries : Entries) (name : Bytes) : Option Bytes :=
  if Store.validName name then entries.list.findSome? (value? name) else none

def set (entries : Entries) (name value : Bytes) : Except Errno Entries :=
  if Store.accepts name value then .ok ⟨update name value entries.list⟩ else .error .invalid

def snapshot (entries : Entries) : List Bytes :=
  entries.list.filter fun entry => wellFormed entry && !entry.hasNul

instance : Store Entries := ⟨get, set, snapshot⟩

/-- The environment of a program that is started with these variables, as they are: in the order
of the names, and of two with one name the later counts. -/
def ofStart (vars : List (Bytes × Bytes)) : Entries :=
  let distinct := vars.foldl (fun kept (name, value) =>
    kept.filter (·.1 ≠ name) ++ [(name, value)]) []
  ⟨(distinct.mergeSort fun a b => Bytes.le a.1 b.1).map fun (name, value) =>
    Store.entry name value⟩

/-- The environment with these variables; a pair that no environment can hold is left out, and of
two with one name the later counts. -/
def ofList (vars : List (Bytes × Bytes)) : Entries :=
  vars.foldl (fun entries (name, value) => (entries.set name value).toOption.getD entries) empty

end Entries

end LineShell
