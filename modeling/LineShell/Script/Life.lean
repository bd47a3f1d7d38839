import LineShell.Script.Redirect
import LineShell.Script.Source

/-!
# Processes of a script

`Runner.live` is the life of a process that runs commands, up to its end. A command can be run in a
process of its own (`Runner.inChild`), after which the script goes on (`await`), or it can be the
last one of the process (`Runner.inPlace`). `Runner.become` turns a process into a program.
-/

namespace LineShell.Script

namespace Frame

/-- Whether something is done when a signal comes, or at the end of the script. -/
def hasTraps (frame : Frame) : Bool := frame.traps.any fun (_, action) => !action.isEmpty

/-- The frame of a process that begins as a copy of another one. Of the traps it has only those
that make it ignore signals. -/
def forked (frame : Frame) : Frame :=
  { frame with
    traps := frame.traps.filter fun (_, action) => action.isEmpty
    pending := []
    jobs := []
    exitStatus := none
    skip := .nothing
    loops := 0
    output := [] }

end Frame

/-- The status of a child that the script has waited for. What signal has ended it is said, unless
that is common. -/
def await (ending : Ending) : Action Nat := do
  Action.receiveAll
  match ending with
  | .exited code => return code
  | .killed signal =>
    if signal ≠ Signal.interrupt && signal ≠ Signal.pipe then
      let _ ← Action.write 2 (bytes (Signal.description signal) ++ [Bytes.newline])
    return 128 + signal

/-- Does something with descriptors that it changes, and puts back what was under these numbers. -/
def restoring {α : Type} (numbers : List Nat) (action : Action α) : Action α := do
  let before := (← get).process.table
  Action.andFinally action (numbers.forM fun number => putDescriptor number (before.at? number))

namespace Runner

/-! ## Traps -/

/-- Runs the trap of a signal, after which the status is as before, unless the trap has returned
one. -/
def runTrap (runner : Runner) (status signal : Nat) : Action Unit := do
  let frame ← get
  if frame.skip ≠ .nothing then set { frame with pending := frame.pending ++ [signal] }
  else
    match frame.traps.lookup signal with
    | none => return
    | some action =>
      let _ ← runner.runText {} action
      if (← get).skip ≠ .function true then Action.setStatus status

/-- Runs the traps of the signals that have come, in the order of their numbers. -/
def runTraps (runner : Runner) : Action Unit := do
  let frame ← get
  if frame.pending.isEmpty || frame.skip ≠ .nothing then return
  let signals := (List.range Signal.count).filter frame.pending.contains
  let status := frame.exitStatus.getD frame.status
  set { frame with pending := [], exitStatus := some status }
  signals.forM (runner.runTrap status)
  modify fun after => { after with exitStatus := frame.exitStatus }

/-! ## Processes -/

/-- The status that a script ends with after it has been left. -/
def finalStatus (frame : Frame) : Except Jump Unit → Nat
  | .error .exit => frame.exitStatus.getD frame.status
  | _ => frame.status

/-- Runs the trap for the end of a script that ends with a status. -/
def runExitTrap (runner : Runner) (action : Bytes) (status : Nat) : Action Unit := do
  modify fun frame => { frame with traps := frame.traps.filter fun (signal, _) => signal ≠ 0 }
  let _ ← runner.runText {} action
  Action.setStatus status

/-- The life of a process: how it ends, and the machine after that. -/
def live (runner : Runner) (action : Action Unit) (frame : Frame) : Ending × Machine :=
  match action frame with
  | (.error (.gone ending), frame) => (ending, frame.machine)
  | (result, frame) =>
    let status := finalStatus frame result
    match frame.traps.lookup 0 with
    | none => (.exited (status % 256), frame.machine)
    | some trap =>
      let frame := { frame with status, exitStatus := some status, skip := .nothing, loops := 0 }
      match runner.runExitTrap trap status frame with
      | (.error (.gone ending), frame) => (ending, frame.machine)
      | (result, frame) => (.exited (finalStatus frame result % 256), frame.machine)

/-- Runs something in a process of its own, which begins with a frame that is first adapted. The
result is the number of the process and how it has ended. -/
def inChild (runner : Runner) (adapt : Frame → Frame) (action : Action Unit) :
    Action (Nat × Ending) := do
  let frame ← get
  let (number, machine) := frame.machine.newProcess
  let process := { frame.process with
    number, ancestors := frame.process.number :: frame.process.ancestors }
  let (ending, machine) := runner.live action (adapt { frame.forked with machine, process })
  set { frame with machine }
  return (number, ending)

/-- Runs something as the last thing that the process does. -/
def inPlace (runner : Runner) (action : Action Unit) : Action Nat := do
  let frame ← get
  let (ending, machine) := runner.live action frame.forked
  set { frame with machine }
  throw (.gone ending)

/-- Runs something in a process of its own and waits for it. If it is the last thing to be done,
that can be the same process. -/
def inSubshell (runner : Runner) (flags : Flags) (action : Action Unit) : Action Nat := do
  if flags.final && !(← get).hasTraps then runner.inPlace action
  else
    let (_, ending) ← runner.inChild id action
    await ending

/-- Whether a command only shows the traps. -/
def showsTraps : Command → Bool
  | .simple _ _ [word] _ => Word.literal word = bytes "trap"
  | _ => false

/-- What commands print that run in a process of their own. If they only show the traps, those are
the ones of the script. -/
def substitute (runner : Runner) : Option Command → Action Bytes
  | none => return []
  | some command => do
    let before ← get
    let (file, machine) := before.machine.openNew (.pipe []) true true
    set { before with machine }
    let shows := showsTraps command
    let adapt (frame : Frame) : Frame :=
      { frame with
        traps := if shows then before.traps else frame.traps
        process := { frame.process with table := frame.process.table.put 1 (some file) } }
    let (_, ending) ← runner.inChild adapt do
      let _ ← runner.run { final := !shows } (some command)
      modify fun frame => { frame with traps := [] }
    let outputStatus ← await ending
    modify fun frame => { frame with outputStatus }
    return (← get).machine.written file

/-! ## Programs -/

/-- Runs the program at a path. What is in no known format is a script. -/
def executeOrRead (runner : Runner) (process : Process) (path : Bytes) (machine : Machine) :
    Except Errno Ending × Machine :=
  match runner.execute process path machine with
  | (.error cause, machine) =>
    let shell := LaunchPlan.scriptRunner
    if cause = .badFormat then
      runner.execute { process with args := shell :: path :: process.args.tail } shell machine
    else (.error cause, machine)
  | result => result

/-- Runs the first program that can be run, or gives the last reason why one cannot, other than
that it is missing. -/
def executeFirst (runner : Runner) (process : Process) :
    Errno → List Bytes → Machine → Except Errno Ending × Machine
  | cause, [], machine => (.error cause, machine)
  | cause, path :: paths, machine =>
    match runner.executeOrRead process path machine with
    | (.ok ending, machine) => (.ok ending, machine)
    | (.error refusal, machine) =>
      let isMissing : Bool := refusal = .noEntry || refusal = .notDirectory
      executeFirst runner process (if isMissing then cause else refusal) paths machine

/-- The status of a process that could not become a program. -/
def executionStatus (cause : Errno) : Nat :=
  if [Errno.tooManyLinks, .nameTooLong, .noEntry, .notDirectory].contains cause then 127 else 126

/-- Turns the process into the first program that can be run; the script ends if there is none. -/
def become (runner : Runner) (paths args : List Bytes) : Action Nat := do
  let frame ← get
  let process := { frame.process with args, environment := frame.environment }
  let (result, machine) := runner.executeFirst process .noEntry paths frame.machine
  set { frame with machine }
  match result with
  | .ok ending => throw (.gone ending)
  | .error cause =>
    Action.setStatus (executionStatus cause)
    Action.warn (args.head?.getD [] ++ bytes ": " ++ executionText cause)
    throw .finish

/-- Runs a program and waits for it. -/
def runProgram (runner : Runner) (flags : Flags) (paths args : List Bytes) : Action Nat := do
  if flags.final && !(← get).hasTraps then runner.become paths args
  else
    let (_, ending) ← runner.inChild id do
      let _ ← runner.become paths args
    await ending

end Runner

end LineShell.Script
