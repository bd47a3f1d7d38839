import LineShell.Launch
import LineShell.Machine.Interpreter
import LineShell.Machine.Utility
import LineShell.Script.Start

/-!
# Executing programs

`Machine.image` finds out what a file runs as: one of the machine's programs, or the interpreter of
a script. `Machine.execute` runs a program in the place of a process, to its end, before the one
that has called it goes on. `Machine.kernel` is the machine as a child of the shell sees it, and
`Machine.host` the machine as the shell sees it.
-/

namespace LineShell.Machine

/-- The most interpreters that run one another's scripts. -/
def maxInterpreters : Nat := 5

/-- The most programs that run inside one another. -/
def maxNesting : Nat := 64

/-- Arguments and entries of the environment have fewer bytes than this. -/
def maxString : Nat := 131072

/-- How much room there is for the arguments and the environment together. -/
def maxStrings : Nat := 2097152

/-- How much room a string takes, with its end and where it is. -/
def roomFor (string : Bytes) : Nat := string.length + 1 + 8

/-- Whether a program can be given these strings. -/
def canHold (strings : List Bytes) : Bool :=
  strings.all (·.length < maxString) &&
    strings.foldl (fun room string => room + roomFor string) 0 ≤ maxStrings

/-- The program that a process becomes when it executes a path, and its arguments. -/
def image (machine : Machine) (process : Process) :
    Nat → Bytes → List Bytes → Except Errno (Utility × List Bytes)
  | interpreters, path, args =>
    match process.walk machine path with
    | .error cause => .error cause
    | .ok node =>
      match machine.tree.node? node with
      | some (.program utility) => .ok (utility, args)
      | some (.file content mode) =>
        if mode &&& 0o111 = 0 then .error .accessDenied
        else if machine.isWritten process.table node then .error .fileBusy
        else
          match Interpreter.ofScript? content with
          | none => .error .badFormat
          | some interpreter =>
            match interpreters with
            | 0 => .error .tooManyLinks
            | interpreters + 1 =>
              machine.image process interpreters interpreter.program
                (interpreter.arguments path args)
      | _ => .error .accessDenied

/-- Runs the program at a path in the place of a process, to its end. Programs run no deeper inside
one another than the first number says. -/
def execute : Nat → Process → Bytes → Machine → Except Errno Ending × Machine
  | 0, _, _, machine => (.error .tooManyLinks, machine)
  | nesting + 1, process, path, machine =>
    if !canHold (process.args ++ process.environment) then (.error .tooBig, machine)
    else
      match machine.image process maxInterpreters path process.args with
      | .error cause => (.error cause, machine)
      | .ok (.shell, args) =>
        let (ending, machine) := Script.start (execute nesting) { process with args } machine
        (.ok ending, machine)
      | .ok (utility, args) =>
        let (code, machine) := (utility.run { process with args }).run machine
        (.ok (.exited code), machine)

/-- How a file is opened with these flags. The machine makes every missing file that is opened for
writing. -/
def accessOf (flags : OpenFlags) : Access :=
  match flags.reads, flags.writes with
  | _, false => .read
  | true, true => .readWrite
  | false, true => if flags.truncates then .truncate else .write

/-- The machine as a child of the shell sees it, before it has become another program. -/
def kernel (process : Process) : Kernel Machine Handle where
  openFile machine table request :=
    ({ process with table }).openFile request.path (accessOf request.flags) request.mode machine
  write machine handle data := (machine.write handle data).2
  execute machine table path argv environment :=
    let args := argv.read
    execute maxNesting { process with args, environment := environment.read, table } path machine

/-- A child of the shell, which ignores that nobody reads what it writes. -/
def child (dir number : Nat) : Process where
  args := []
  environment := []
  dir
  table := Handle.standard
  ignored := [Script.Signal.pipe]
  number
  ancestors := [1]

/-- The machine as the shell sees it; what is on the console after a launch is handed over. -/
def host : Host Machine Nat where
  enter machine dir path := machine.tree.enter ⟨dir, machine.held Handle.standard⟩ path
  path machine dir := machine.tree.pathOf dir
  launch machine dir command view :=
    let (number, machine) := machine.cleared.newProcess
    let (status, machine) :=
      launch (kernel (child dir number)) Handle.standard machine command view
    { status, out := machine.written 1, err := machine.written 2, system := machine.cleared }

end LineShell.Machine
