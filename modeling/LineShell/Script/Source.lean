import LineShell.Script.Frame

/-!
# Running a script line by line

A `Source` is a script that is read while it runs: a text, or a file that is read block by block.
`Runner.runSource` runs the commands of each line before it reads the next one, so that what the
commands do can change how the rest is read.
-/

namespace LineShell.Script

/-- How a command is run. -/
structure Flags where
  /-- Whether its status is looked at, so that a failure of it never ends the script. -/
  tested : Bool := false
  /-- Whether the process ends with it. -/
  final : Bool := false
  deriving DecidableEq, Repr

/-- What runs the commands inside of others. -/
structure Runner where
  /-- Runs a command, if there is one, and gives the status after it. -/
  run : Flags → Option Command → Action Nat
  /-- Runs a program in the place of a process, to its end. -/
  execute : Process → Bytes → Machine → Except Errno Ending × Machine

/-- A script: what has been read of it, and the file with the rest. -/
structure Source where
  reader : Reader
  file : Option Handle

namespace Source

def ofText (text : Bytes) : Source := ⟨{ text, closed := true }, none⟩

def ofFile (file : Option Handle) : Source := ⟨{ text := [], closed := false }, file⟩

/-- How much is read at once. -/
def blockSize : Nat := 8192

/-- Reads the next block of the file, without its NULs. -/
def more (source : Source) : Action Source := do
  let frame ← get
  let (block, machine) := match source.file with
    | some file =>
      let (result, machine) := frame.machine.read file blockSize
      (result.toOption.getD [], machine)
    | none => ([], frame.machine)
  set { frame with machine }
  let reader := source.reader
  return { source with
    reader := { reader with
      text := reader.text ++ block.filter (· ≠ Bytes.nul)
      closed := block.isEmpty } }

/-- The lines that a reader has begun to read since it was as before. -/
def linesBetween (before after : Reader) : Bytes :=
  let read := before.text.take (before.text.length - after.size)
  let rest := before.text.drop read.length
  if read.isEmpty || read.getLast? = some Bytes.newline then read
  else read ++ rest.take ((rest.takeWhile (· ≠ Bytes.newline)).length + 1)

/-- Shows the lines of a file that have been read, if the script is to do so. -/
def showLines (source : Source) (after : Reader) : Action Unit := do
  if source.file.isSome && (← get).hasOption 'v' then
    let _ ← Action.write 2 (linesBetween source.reader after)

/-- Reads the commands of the next line, of which no more than `blocks` are missing. -/
def next : Nat → Source → Action (CommandLine × Source)
  | 0, source => return (.finished, source)
  | blocks + 1, source => do
    let frame ← get
    let reader := { source.reader with aliases := frame.aliases, documents := frame.documents }
    match Parser.commandLine reader with
    | .ok line after =>
      showLines source after
      modify fun frame => { frame with documents := after.documents }
      return (line, { source with reader := after })
    | .error .incomplete _ => next blocks (← source.more)
    | .error (.wrong line message) after =>
      showLines source after
      modify fun frame => { frame with line }
      Action.fail message

/-- The most blocks that can be missing. -/
def blocksLeft (source : Source) (machine : Machine) : Nat :=
  (source.file.map machine.unread).getD 0 + 2

end Source

namespace Runner

/-- How many lines a script can have. -/
def maxLines : Nat := 1000000

/-- Runs the commands of a source up to its end, or to where it is left. The result is the last
status, or the given one if there is no command. -/
def runLines (runner : Runner) (flags : Flags) : Nat → Source → Nat → Action Nat
  | 0, _, status => return status
  | lines + 1, source, status => do
    match ← source.next (source.blocksLeft (← get).machine) with
    | (.finished, _) => return status
    | (.commands command, source) =>
      let final := flags.final && source.reader.isFinished
      let after ← runner.run { flags with final } command
      let status := if command.isSome then after else status
      if (← get).skip ≠ .nothing then return status
      else runLines runner flags lines source status

def runSource (runner : Runner) (flags : Flags) (source : Source) : Action Nat :=
  runner.runLines flags maxLines source 0

/-- Runs the commands of a text. -/
def runText (runner : Runner) (flags : Flags) (text : Bytes) : Action Nat :=
  runner.runSource flags (.ofText text)

/-- Runs the commands of a file, which can be left like a function. -/
def runFile (runner : Runner) (file : Option Handle) : Action Nat := do
  let status ← runner.runSource {} (.ofFile file)
  modify fun frame => { frame with
    skip := match frame.skip with
      | .function _ => .nothing
      | skip => skip }
  return status

end Runner

end LineShell.Script
