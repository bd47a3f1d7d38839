import LineShell.Script.Simple

/-!
# Running commands

`Runner.runCommand` runs a command, given what runs the commands inside of it, and
`Runner.ofDepth` ties the knot: commands run inside one another no deeper than that. A script that
goes on after a failure, although it should not, is left here (`Runner.settle`).
-/

namespace LineShell.Script

/-- The status of a command, and whether a failure of it can end the script. -/
structure Result where
  status : Nat
  isChecked : Bool := false

/-- What is done at the end of a turn of a loop: the commands to be passed over from here on. -/
def endTurn : Action Skip := do
  let frame ← get
  match frame.skip with
  | .loops count goesOn =>
    if count ≤ 1 then
      set { frame with skip := .nothing }
      return .loops 1 goesOn
    else
      set { frame with skip := .loops (count - 1) goesOn }
      return .loops 1 false
  | skip => return skip

/-- Whether a loop goes on with another turn. -/
def Skip.goesOn : Skip → Bool
  | nothing => true
  | loops _ goesOn => goesOn
  | function _ => false

/-- Does something inside of one more loop. -/
def insideLoop {α : Type} (action : Action α) : Action α := do
  modify fun frame => { frame with loops := frame.loops + 1 }
  let result ← action
  modify fun frame => { frame with loops := frame.loops - 1 }
  return result

/-- Remembers a command in the background, which has ended already. -/
def addJob (number : Nat) (ending : Ending) : Action Unit :=
  modify fun frame =>
    let status := match ending with
      | .exited code => code
      | .killed signal => 128 + signal
    { frame with jobs := frame.jobs ++ [(number, status)], lastJob := some number }

/-- Lets the process read nothing. -/
def readNothing : Action Unit := do
  let frame ← get
  let (file, machine) := frame.machine.openNew (.device .null) true false
  set { frame with machine }
  putDescriptor 0 (some file)

/-- The frame of a process in the background. -/
def Frame.inBackground (frame : Frame) : Frame :=
  let ignored := [Signal.interrupt, Signal.quit] ++ frame.process.ignored
  { frame with process := { frame.process with ignored } }

/-- Notes the line of a command. -/
def atLine (line : Nat) : Action Unit := modify fun frame => { frame with line }

namespace Runner

/-! ## Loops -/

/-- How often a loop can be repeated. -/
def maxTurns : Nat := 100000000

/-- Repeats a command as long as the condition is as it should be. -/
def repeatWhile (runner : Runner) (flags : Flags) (onSuccess : Bool) (condition body : Command) :
    Nat → Nat → Action Nat
  | 0, status => return status
  | turns + 1, status => do
    let tested ← runner.run { tested := true } (some condition)
    match ← endTurn with
    | .function withStatus => return if withStatus then tested else status
    | .loops _ true => repeatWhile runner flags onSuccess condition body turns status
    | .loops _ false => return status
    | .nothing =>
      let succeeds : Bool := tested = 0
      if succeeds ≠ onSuccess then return status
      else
        let status ← runner.run { tested := flags.tested } (some body)
        if (← endTurn).goesOn then repeatWhile runner flags onSuccess condition body turns status
        else return status

/-- Runs a command for each value of a variable. -/
def runEach (runner : Runner) (flags : Flags) (name : Bytes) (body : Command) :
    List Bytes → Nat → Action Nat
  | [], status => return status
  | value :: values, _ => do
    Action.setVariable name (some value)
    let status ← runner.run { tested := flags.tested } (some body)
    if (← endTurn).goesOn then runEach runner flags name body values status else return status

/-! ## Choices -/

/-- Whether a value matches one of some patterns. -/
def anyAccepts (runner : Runner) (value : Bytes) : List Word → Action Bool
  | [] => return false
  | pattern :: patterns => do
    if Pattern.accepts (← expandPattern runner.substitute pattern) value then return true
    else anyAccepts runner value patterns

/-- Runs the commands of the first clause that matches a value. -/
def select (runner : Runner) (flags : Flags) (value : Bytes) :
    List (List Word × Option Command) → Action Nat
  | [] => return 0
  | (patterns, body) :: clauses => do
    if ← runner.anyAccepts value patterns then
      if body.isSome && (← get).skip = .nothing then runner.run flags body else return 0
    else runner.select flags value clauses

/-! ## Processes -/

/-- Runs commands joined by pipes, from left to right. The first one reads from a file; the result
has the number and the end of each. -/
def runPipeline (runner : Runner) (flags : Flags) (adapt : Frame → Frame) :
    Option Handle → List Command → Action (List (Nat × Ending))
  | _, [] => return []
  | input, command :: commands => do
    let frame ← get
    let isLast := commands.isEmpty
    let (pipe, machine) := frame.machine.openNew (.pipe []) true true
    if !isLast then set { frame with machine }
    let child ← runner.inChild adapt do
      if input.isSome then putDescriptor 0 input
      if !isLast then putDescriptor 1 (some pipe)
      let _ ← runner.run { flags with final := true } (some command)
    let others ← runPipeline runner flags adapt (some pipe) commands
    return child :: others

/-- Runs a pipeline in the background. -/
def startPipeline (runner : Runner) (flags : Flags) (commands : List Command) : Action Nat := do
  let frame ← get
  let (file, machine) := frame.machine.openNew (.device .null) true false
  set { frame with machine }
  let children ← runner.runPipeline flags Frame.inBackground (some file) commands
  match children.getLast? with
  | some (number, ending) => addJob number ending
  | none => pure ()
  return 0

/-- Waits for all commands of a pipeline; the status is that of the last. -/
def waitForPipeline (runner : Runner) (flags : Flags) (commands : List Command) : Action Nat := do
  let children ← runner.runPipeline flags id none commands
  children.foldlM (fun _ (_, ending) => await ending) 0

/-- Runs a command in the background. -/
def runInBackground (runner : Runner) (command : Command) (redirects : List Redirect) :
    Action Nat := do
  let openings ← redirects.mapM (expandRedirect runner.substitute)
  let (number, ending) ← runner.inChild Frame.inBackground do
    readNothing
    openAll runner.substitute openings
    let _ ← runner.run { final := true } (some command)
  addJob number ending
  return 0

/-- Runs a command in a process of its own, with redirections. -/
def runSubshell (runner : Runner) (flags : Flags) (command : Command)
    (redirects : List Redirect) : Action Nat := do
  let openings ← redirects.mapM (expandRedirect runner.substitute)
  runner.inSubshell flags do
    openAll runner.substitute openings
    let _ ← runner.run { flags with final := true } (some command)

/-- Runs a command with redirections. -/
def runRedirected (runner : Runner) (flags : Flags) (command : Command)
    (redirects : List Redirect) : Action Result := do
  let openings ← redirects.mapM (expandRedirect runner.substitute)
  restoring (openings.map Opening.number) do
    if ← succeeds (openAll runner.substitute openings) then
      return { status := ← runner.run { tested := flags.tested } (some command) }
    else return { status := 2, isChecked := true }

/-! ## All commands -/

/-- Runs commands one after the other. -/
def runSequence (runner : Runner) (flags : Flags) : List Command → Action Nat
  | [] => return 0
  | [command] => runner.run flags (some command)
  | command :: commands => do
    let status ← runner.run { tested := flags.tested } (some command)
    if (← get).skip = .nothing then runSequence runner flags commands else return status

/-- Runs a command; the status is not set yet. -/
def runCommand (runner : Runner) (flags : Flags) (command : Command) : Action Result := do
  let run := runner.run
  let goOn := fun (status : Nat) (wanted : Bool) (next : Command) => do
    let succeeds : Bool := status = 0
    let isDone : Bool := succeeds ≠ wanted || (← get).skip ≠ .nothing
    if isDone then return { status } else return { status := ← run flags (some next) : Result }
  match command with
  | .simple line assignments words redirects =>
    let status ← runner.runSimple flags line assignments words redirects
    return { status, isChecked := true }
  | .pipeline commands true =>
    return { status := ← runner.startPipeline flags commands, isChecked := true }
  | .pipeline commands false =>
    return { status := ← runner.waitForPipeline flags commands, isChecked := true }
  | .sequence commands => return { status := ← runner.runSequence flags commands }
  | .both first second => goOn (← run { tested := true } (some first)) true second
  | .either first second => goOn (← run { tested := true } (some first)) false second
  | .negated command =>
    return { status := if (← run { tested := true } (some command)) = 0 then 1 else 0 }
  | .redirected line command redirects =>
    atLine line
    runner.runRedirected flags command redirects
  | .background line command redirects =>
    atLine line
    return { status := ← runner.runInBackground command redirects, isChecked := true }
  | .subshell line command redirects =>
    atLine line
    return { status := ← runner.runSubshell flags command redirects, isChecked := true }
  | .choice condition yes no =>
    let tested ← run { tested := true } (some condition)
    if (← get).skip ≠ .nothing then return { status := tested }
    else if tested = 0 then return { status := ← run flags (some yes) }
    else if no.isSome then return { status := ← run flags no }
    else return { status := 0 }
  | .repeated onSuccess condition command =>
    let turns := runner.repeatWhile flags onSuccess condition command maxTurns 0
    return { status := ← insideLoop turns }
  | .loop line name values command =>
    atLine line
    let fields ← values.mapM (expandFields runner.substitute)
    return { status := ← insideLoop (runner.runEach flags name command fields.flatten 0) }
  | .selection line word clauses =>
    atLine line
    let value ← expandText runner.substitute .single word
    return { status := ← runner.select flags value clauses }
  | .definition _ name command =>
    modify fun frame => { frame.forgetProgram name with
      functions := (name, command) :: frame.functions.filter fun (other, _) => other ≠ name }
    return { status := 0 }

/-- Ends the script after a command, if that is to be done: because it was the last one, or because
it has failed and nothing looks at its status. -/
def settle (flags : Flags) (result : Result) : Action Nat := do
  let frame ← get
  let isFailure : Bool := result.isChecked && result.status ≠ 0
  if (frame.hasOption 'e' && !flags.tested && isFailure) || flags.final then throw .finish
  else return frame.status

/-- Runs a command with the traps before and after it. If commands are only read, nothing is
run. -/
def runSome (runner : Runner) (flags : Flags) (command : Option Command) : Action Nat := do
  let result ← match command with
    | some command => do
      if (← get).hasOption 'n' then pure { status := 0 }
      else
        runner.runTraps
        let result ← runner.runCommand flags command
        Action.setStatus result.status
        pure result
    | none => pure { status := 0 }
  runner.runTraps
  settle flags result

/-- What runs commands of which no more than `depth` are inside one another, given what runs a
program in the place of a process. -/
def ofDepth (execute : Process → Bytes → Machine → Except Errno Ending × Machine) :
    Nat → Runner
  | 0 => { run := fun _ _ => throw (.gone (.killed Signal.segmentation)), execute }
  | depth + 1 =>
    { run := fun flags command => (ofDepth execute depth).runSome flags command, execute }

/-- How deep commands can run inside one another. -/
def maxDepth : Nat := 2000

end Runner

end LineShell.Script
