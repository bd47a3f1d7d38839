import LineShell.Machine.Files
import LineShell.Shell
import LineShell.Store.Entries

/-!
# The command line

`Cli.run` is the whole program on a machine, with a host that launches its commands: it reads the
configuration that a variable names, runs the lines that the console has to be read, and ends with
an exit code. A command may write more lines for the console to be read, and so the program need not
come to an end; it then has no result.
-/

namespace LineShell

namespace Cli

/-- The variable that names the file with the configuration. -/
def configName : Bytes := bytes "MICROSHELL_CONFIG"

/-- The size of the chunks in which the input is read. -/
def chunkSize : Nat := 8192

/-- The line about a configuration that cannot be used. -/
def complaint (path : Bytes) (cause : ConfigError) : Text :=
  "microshell: ".toList ++ Text.lossy path ++ ": ".toList ++ cause.message

/-- The configuration in a file. -/
def readConfig (machine : Machine) (dir : Nat) (path : Bytes) : Except ConfigError Config :=
  match machine.readFile ⟨dir, machine.held Handle.standard⟩ path with
  | .error fault => .error (.unreadable fault)
  | .ok content => Config.ofFile content

/-- The configuration to be used, and what has to be said about it. -/
def loadConfig (machine : Machine) (dir : Nat) (store : Entries) : Config × Sink :=
  let silent := Sink.ofLimit none
  match store.get configName with
  | none => ({}, silent)
  | some path =>
    match readConfig machine dir path with
    | .ok config => (config, silent)
    | .error cause => ({}, silent.writeLine (complaint path cause))

/-- The exit code for a status; one that is no exit code counts as a failure. -/
def exitCode (status : Int) : Nat := if 0 ≤ status && status < 256 then status.toNat else 1

/-! ## The input -/

/-- What the console still has to be read. -/
def unread (machine : Machine) : Bytes := ((machine.readAll 0).1.toOption).getD []

/-- Reads a line of the console. The commands that have been run since the last line may have read
from it, too, but not what has been read into the buffer before. -/
def readLine (machine : Machine) (input : Input) (buffer : Bytes) :
    ReadOutcome × Bytes × Input × Machine :=
  let input := { input with unread := unread machine }
  let (outcome, line, rest) := input.readLine buffer
  (outcome, line, rest, (machine.read 0 (input.unread.length - rest.unread.length)).2)

end Cli

/-- Runs the lines of the console. The result is the status with which the session ends and the
shell at its end, if it ends. -/
def Session.runConsole (session : Session Entries Machine Nat) (shell : Shell Entries Machine Nat)
    (input : Input) (buffer : Bytes) : Option (Int × Shell Entries Machine Nat) :=
  let shell := session.prompt shell
  let (outcome, line, input, system) := Cli.readLine shell.system input buffer
  if outcome ≠ .line then some (shell.status, shell)
  else
    match session.advance { shell with system } line with
    | (none, shell) => session |>.runConsole shell input line
    | (some status, shell) => some (status, shell)
partial_fixpoint

/-! ## The program -/

namespace Cli

/-- Runs the lines of the console in a new shell, in a directory and with the configuration. -/
def runShell (host : Host Machine Nat) (machine : Machine) (dir : Nat) (store : Entries) :
    Option (Int × Shell Entries Machine Nat) :=
  let (config, err) := loadConfig machine dir store
  let session : Session Entries Machine Nat := { host, config }
  let shell : Shell Entries Machine Nat :=
    { store, dir, out := Sink.ofLimit none, err, system := machine }
  session.runConsole shell { unread := [], size := chunkSize, size_pos := by decide } []

/-- What the program leaves behind. -/
structure Result where
  exitCode : Nat
  out : Bytes
  err : Bytes
  machine : Machine

/-- Runs the program in a directory, over the lines of the console. -/
def run (host : Host Machine Nat) (machine : Machine) (dir : Nat) (store : Entries) :
    Option Result :=
  (runShell host machine dir store).map fun (status, shell) =>
    ⟨exitCode status, shell.out.accepted, shell.err.accepted, shell.system⟩

end Cli

end LineShell
