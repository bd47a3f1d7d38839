import LineShell.Machine.Files

/-!
# Processes

A `Process` is a running program: what it was called with, where it is, and the files it has open.
-/

namespace LineShell

structure Process where
  /-- The arguments; the first is the name by which the program was called. -/
  args : List Bytes
  /-- The environment, one entry NAME=VALUE for each variable. -/
  environment : List Bytes
  dir : Nat
  table : Descriptors Handle
  /-- What is taken from the modes of the files it makes. -/
  mask : Nat := Machine.standardMask
  /-- The signals that do nothing to it. -/
  ignored : List Nat := []
  number : Nat := 0
  /-- The numbers of the processes that have started it, the nearest first. -/
  ancestors : List Nat := []
  deriving DecidableEq, Repr

/-- A number for a new process. The one that has started all others is number 1. -/
def Machine.newProcess (machine : Machine) : Nat × Machine :=
  (machine.processes + 2, { machine with processes := machine.processes + 1 })

namespace Process

/-- The arguments after the name. -/
def operands (process : Process) : List Bytes := process.args.tail

def calledAs (process : Process) : Bytes := process.args.head?.getD []

/-- The value of a variable of the environment; the first entry for a name counts. -/
def value? (process : Process) (name : Bytes) : Option Bytes :=
  process.environment.findSome? fun entry =>
    if (name ++ [Bytes.equals]).isPrefixOf entry then some (entry.drop (name.length + 1)) else none

/-- From where the process follows paths. -/
def standpoint (process : Process) (machine : Machine) : Standpoint :=
  ⟨process.dir, machine.held process.table⟩

/-- The node to which a path leads. -/
def walk (process : Process) (machine : Machine) (path : Bytes) : Except Errno Nat :=
  machine.tree.walk (process.standpoint machine) path

/-- Opens a file; if it has to be made, it gets what the mask leaves of the mode. -/
def openFile (process : Process) (path : Bytes) (access : Access) (mode : Nat) :
    StateM Machine (Except Errno Handle) :=
  fun machine =>
    machine.openFile (process.standpoint machine) path access (Machine.masked mode process.mask)

/-- Writes to a descriptor. -/
def write (process : Process) (number : Nat) (data : Bytes) :
    StateM Machine (Except Errno Unit) :=
  fun machine =>
    match process.table.at? number with
    | some handle => machine.write handle data
    | none => (.error .notOpen, machine)

/-- Writes a diagnostic line that begins with the name of the program. -/
def complain (process : Process) (message : Bytes) : StateM Machine Unit := do
  let _ ← process.write 2 (process.calledAs ++ bytes ": " ++ message ++ [Bytes.newline])

/-- Opens an operand for reading: the standard input for a dash, and a file for everything else. -/
def openOperand (process : Process) (operand : Bytes) : StateM Machine (Except Errno Handle) :=
  fun machine =>
    if operand = bytes "-" then
      match process.table.at? 0 with
      | some handle => (.ok handle, machine)
      | none => (.error .notOpen, machine)
    else machine.openForReading (process.standpoint machine) operand

/-- Reads an operand to its end. -/
def readOperand (process : Process) (operand : Bytes) : StateM Machine (Except Errno Bytes) :=
  fun machine =>
    match process.openOperand operand machine with
    | (.ok handle, machine) => machine.readAll handle
    | (.error cause, machine) => (.error cause, machine)

end Process

end LineShell
