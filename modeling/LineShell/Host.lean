import LineShell.Command
import LineShell.Store

/-!
# What the shell asks of the system

A `Host` is the system as the shell sees it. It turns paths into working directories, knows the
path of a directory, launches commands, and grants memory. A child cannot change the shell's working
directory, so a launch is given the directory and returns none.
-/

namespace LineShell

/-- How a command has ended, for the shell. -/
inductive Outcome where
  | code (status : Int)
  | unchanged
  | exit
  deriving DecidableEq, Repr

/-- A command ends in an outcome or in an error. -/
abbrev Status := Except ShellError Outcome

/-- The answer to a launch: its status, what the children wrote on the shell's streams, and the
system after it. -/
structure Reply (κ : Type) where
  status : Status
  out : Bytes := []
  err : Bytes := []
  system : κ

/-- A system with states `κ` and working directories `ω`. -/
structure Host (κ ω : Type) where
  /-- The directory that a path leads to from a directory. -/
  enter : κ → ω → Bytes → Except Errno ω
  /-- The absolute path of a directory. -/
  path : κ → ω → Except Errno Bytes
  /-- Runs a command in a directory, with the variables that it may look at. -/
  launch : κ → ω → Command → View → Reply κ
  /-- The sizes for which the shell is granted memory. -/
  grants : Nat → Bool := ampleMemory

/-- A host where no path leads anywhere else, and every command succeeds and does nothing. -/
def Host.idle {κ ω : Type} : Host κ ω where
  enter _ dir _ := .ok dir
  path _ _ := .ok (bytes "/")
  launch system _ _ _ := { status := .ok (.code 0), system }

end LineShell
