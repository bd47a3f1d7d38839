import LineShell.Failure
import LineShell.Launch.Child
import LineShell.Machine.Tree

/-!
# Open files

A `Machine` has a file tree and the files opened in it, each with a position of its own. A `Handle`
is the number of an opened file and is what a descriptor refers to; descriptors that refer to one
opened file share its position. The first three handles are the machine's console: what its
processes read and write if nobody says otherwise.
-/

namespace LineShell

/-- An opened node, the position in it, and what it was opened for. -/
structure OpenFile where
  node : Nat
  position : Nat := 0
  reads : Bool := false
  writes : Bool := false
  /-- Whether everything is written at the end. -/
  appends : Bool := false
  deriving DecidableEq, Repr

/-- The number of an opened file. -/
abbrev Handle := Nat

structure Machine where
  tree : Tree
  opened : Array OpenFile := #[]
  /-- How many processes there have been. -/
  processes : Nat := 0
  /-- Processes and the signals that have been sent to them but not yet received. -/
  signals : List (Nat × Nat) := []
  /-- The times of nodes that have been given one; all others have changed just now. -/
  times : List (Nat × Int) := []
  deriving DecidableEq, Repr

/-- For what a file is opened, and what becomes of its content. -/
inductive Access where
  | read
  /-- For writing, as an empty file. -/
  | truncate
  /-- For writing at the end. -/
  | append
  /-- For writing over what is there. -/
  | write
  | readWrite
  deriving DecidableEq, Repr

/-- The descriptors with which a child of the shell starts. -/
def Handle.standard : Descriptors Handle := [some 0, some 1, some 2]

namespace Machine

/-- The mode of a new file and of a new directory, before anything is taken from it. -/
def fileMode : Nat := 0o666
def directoryMode : Nat := 0o777

/-- What is taken from the modes if nobody says otherwise. -/
def standardMask : Nat := 0o022

/-- A mode without the bits of a mask. -/
def masked (mode mask : Nat) : Nat := mode - (mode &&& mask)

def file? (machine : Machine) (handle : Handle) : Option OpenFile := machine.opened[handle]?

/-- The node that a handle refers to. -/
def node? (machine : Machine) (handle : Handle) : Option Node :=
  (machine.file? handle).bind fun file => machine.tree.node? file.node

/-- The nodes under the numbers of a descriptor table. -/
def held (machine : Machine) (table : Descriptors Handle) : Descriptors Nat :=
  table.map fun handle => handle.bind fun handle => (machine.file? handle).map (·.node)

/-- Gives a node a time; without one it has changed just now. -/
def setTime (machine : Machine) (node : Nat) (time : Option Int) : Machine :=
  let others := machine.times.filter (·.1 ≠ node)
  { machine with times := time.elim others fun time => (node, time) :: others }

/-- Adds an opened file. -/
def openNode (machine : Machine) (file : OpenFile) : Handle × Machine :=
  (machine.opened.size, { machine with opened := machine.opened.push file })

/-- Makes a node that is in no directory and opens it. -/
def openNew (machine : Machine) (node : Node) (reads writes : Bool) : Handle × Machine :=
  let tree : Tree := ⟨machine.tree.nodes.push node⟩
  { machine with tree }.openNode { node := machine.tree.nodes.size, reads, writes }

def openForReading (machine : Machine) (here : Standpoint) (path : Bytes) :
    Except Errno Handle × Machine :=
  match machine.tree.walk here path with
  | .error cause => (.error cause, machine)
  | .ok node =>
    if machine.tree.node? node = some (.device .terminal) then (.error .noAddress, machine)
    else
      let (handle, machine) := machine.openNode { node, reads := true }
      (.ok handle, machine)

/-- Makes an empty file, unless the directory has been removed. -/
def create (machine : Machine) (dir : Nat) (name : Bytes) (mode : Nat) :
    Except Errno Nat × Machine :=
  if machine.tree.isAlive dir then
    let (node, tree) := machine.tree.add dir name (.file [] mode)
    (.ok node, { machine with tree })
  else (.error .noEntry, machine)

/-- The opened file for a node, without its position. -/
def Access.file (access : Access) (node : Nat) : OpenFile where
  node
  reads := access = .read || access = .readWrite
  writes := access ≠ .read
  appends := access = .append

/-- Opens a file, and makes it with the mode if it is to be written and is missing. -/
def openFile (machine : Machine) (here : Standpoint) (path : Bytes) (access : Access)
    (mode : Nat) : Except Errno Handle × Machine :=
  if access = .read then machine.openForReading here path
  else
    let opened (machine : Machine) (node : Nat) : Except Errno Handle × Machine :=
      let (handle, machine) := machine.openNode (Access.file access node)
      (.ok handle, machine)
    match machine.tree.place here path with
    | .error cause => (.error cause, machine)
    | .ok (.free dir name) =>
      match machine.create dir name mode with
      | (.error cause, machine) => (.error cause, machine)
      | (.ok node, machine) => opened machine node
    | .ok (.taken node) =>
      match machine.tree.node? node with
      | some (.file _ mode) =>
        if access = .truncate then
          let tree := machine.tree.setNode node (.file [] mode)
          opened ({ machine with tree }.setTime node none) node
        else opened machine node
      | some (.directory ..) => (.error .isDirectory, machine)
      | some (.device .terminal) => (.error .noAddress, machine)
      | some (.device _) => opened machine node
      | some (.pipe _) => opened machine node
      | _ => (.error .accessDenied, machine)

/-- The content with data written over it from a position on. -/
def overwrite (content : Bytes) (position : Nat) (data : Bytes) : Bytes :=
  if position = content.length then content ++ data
  else
    content.take position ++ List.replicate (position - content.length) Bytes.nul ++ data ++
      content.drop (position + data.length)

def write (machine : Machine) (handle : Handle) (data : Bytes) : Except Errno Unit × Machine :=
  match machine.file? handle with
  | none => (.error .notOpen, machine)
  | some file =>
    if !file.writes then (.error .notOpen, machine)
    else
      match machine.tree.node? file.node with
      | some (.file content mode) =>
        let position := if file.appends then content.length else file.position
        let node := .file (overwrite content position data) mode
        let moved := { file with position := position + data.length }
        let written := { machine with
          tree := machine.tree.setNode file.node node
          opened := machine.opened.setIfInBounds handle moved }
        (.ok (), if data.isEmpty then written else written.setTime file.node none)
      | some (.pipe content) =>
        let tree := machine.tree.setNode file.node (.pipe (content ++ data))
        (.ok (), { machine with tree })
      | some (.device .full) => (if data.isEmpty then .ok () else .error .noSpace, machine)
      | _ => (.ok (), machine)

/-- Reads at most `count` bytes from where an opened file is. -/
def read (machine : Machine) (handle : Handle) (count : Nat) : Except Errno Bytes × Machine :=
  match machine.file? handle with
  | none => (.error .notOpen, machine)
  | some file =>
    if !file.reads then (.error .notOpen, machine)
    else
      match machine.tree.node? file.node with
      | some (.file content _) =>
        let data := (content.drop file.position).take count
        let moved := { file with position := file.position + data.length }
        (.ok data, { machine with opened := machine.opened.setIfInBounds handle moved })
      | some (.pipe content) =>
        let tree := machine.tree.setNode file.node (.pipe (content.drop count))
        (.ok (content.take count), { machine with tree })
      | some (.device .zero) => (.ok (List.replicate count Bytes.nul), machine)
      | some (.device .full) => (.ok (List.replicate count Bytes.nul), machine)
      | some (.directory ..) => (.error .isDirectory, machine)
      | _ => (.ok [], machine)

/-- How much there is to read. A device without an end counts as empty, since nothing could read it
to its end. -/
def unread (machine : Machine) (handle : Handle) : Nat :=
  match machine.file? handle, machine.node? handle with
  | some file, some (.file content _) => content.length - file.position
  | _, some (.pipe content) => content.length
  | _, _ => 0

/-- Moves to a position in a file. -/
def seek (machine : Machine) (handle : Handle) (position : Nat) : Machine :=
  match machine.file? handle with
  | some file =>
    { machine with opened := machine.opened.setIfInBounds handle { file with position } }
  | none => machine

/-- Reads to the end. -/
def readAll (machine : Machine) (handle : Handle) : Except Errno Bytes × Machine :=
  machine.read handle (machine.unread handle)

/-- Why nothing can be written, if that is so. -/
def refusal? (machine : Machine) (handle : Handle) : Option Errno :=
  match machine.file? handle, machine.node? handle with
  | none, _ => some .notOpen
  | some file, node =>
    if !file.writes then some .notOpen
    else if node = some (.device .full) then some .noSpace
    else none

/-- Whether a node is open for writing under one of the descriptors. -/
def isWritten (machine : Machine) (table : Descriptors Handle) (node : Nat) : Bool :=
  table.any fun handle =>
    (handle.bind machine.file?).any fun file => file.node = node && file.writes

/-- The size of what a handle refers to, if it is a file. -/
def size? (machine : Machine) (handle : Handle) : Option Nat :=
  match machine.node? handle with
  | some (.file content _) => some content.length
  | _ => none

/-- Whether reading from one handle to the end of its file would read what is written to another. -/
def feeds (machine : Machine) (source target : Handle) : Bool :=
  match machine.file? source, machine.file? target with
  | some input, some output =>
    input.node = output.node && (machine.size? source).any (input.position < ·)
  | _, _ => false

/-- The content of the file to which a path leads. -/
def readFile (machine : Machine) (here : Standpoint) (path : Bytes) : Except ReadFault Bytes :=
  if path.hasNul then .error .nulInPath
  else
    match machine.openForReading here path with
    | (.error cause, _) => .error (.system cause)
    | (.ok handle, machine) =>
      match machine.readAll handle with
      | (.error cause, _) => .error (.system cause)
      | (.ok content, _) => .ok content

/-! ## The console -/

/-- What has been written on the console: to the output and to the error stream. -/
def written (machine : Machine) (handle : Handle) : Bytes :=
  match machine.node? handle with
  | some (.file content _) => content
  | some (.pipe content) => content
  | _ => []

/-- Forgets what has been written to a stream of the console. -/
def clear (machine : Machine) (handle : Handle) : Machine :=
  match machine.file? handle with
  | none => machine
  | some file =>
    let emptied := match machine.tree.node? file.node with
      | some (.file _ mode) => machine.tree.setNode file.node (.file [] mode)
      | some (.pipe _) => machine.tree.setNode file.node (.pipe [])
      | _ => machine.tree
    { machine with
      tree := emptied
      opened := machine.opened.setIfInBounds handle { file with position := 0 } }

/-- The machine with nothing on its console. -/
def cleared (machine : Machine) : Machine := (machine.clear 1).clear 2

end Machine

end LineShell
