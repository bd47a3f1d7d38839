import LineShell.Script.Run

/-!
# Starting the shell

`start` is the life of a process that is a shell: its variables are taken from the environment, its
arguments say with what options which script is run, and the script runs to its end.
-/

namespace LineShell.Script

/-! ## Variables -/

/-- The variables that every script has; none of them is forgotten. -/
def standardVariables : List Variable :=
  let standing (name : String) (value : Option Bytes) : Variable :=
    { name := bytes name, value, permanent := true }
  [standing "IFS" (some (bytes " \t\n")), standing "MAIL" none, standing "MAILPATH" none,
    standing "PATH" (some defaultPath), standing "PS1" (some (bytes "# ")),
    standing "PS2" (some (bytes "> ")), standing "PS4" (some (bytes "+ ")),
    standing "OPTIND" (some (bytes "1")), standing "TERM" none, standing "HISTSIZE" none]

/-- Takes a variable over from an entry of the environment, if it can have that name. -/
def importEntry (frame : Frame) (entry : Bytes) : Frame :=
  match cutAt Bytes.equals entry with
  | none => frame
  | some (name, value) =>
    if !isName name then frame
    else
      let before := (frame.record? name).getD { name, value := none }
      frame.putVariable { before with value := some value, exported := true }

/-- Gives a variable a value, whatever the environment says. -/
def overrule (frame : Frame) (name : String) (value : Bytes) : Frame :=
  let before := (frame.record? (bytes name)).getD { name := bytes name, value := none }
  frame.putVariable { before with value := some value }

/-- The frame of a shell that has not read its arguments yet. -/
def Frame.ofProcess (process : Process) (machine : Machine) : Frame :=
  let frame : Frame := {
    machine
    process
    name := bytes "sh"
    records := standardVariables
    number := process.number
    ignoredBefore := process.ignored }
  let frame := process.environment.foldl importEntry frame
  let frame := overrule frame "IFS" (bytes " \t\n")
  let frame := overrule frame "OPTIND" (bytes "1")
  overrule frame "PPID" (bytes (toString (process.ancestors.head?.getD 1)))

/-- Whether a path is an absolute one of the working directory. -/
def Frame.isHere (frame : Frame) (path : Bytes) : Bool :=
  path.head? = some Bytes.slash && (frame.walk path).toOption = some frame.process.dir

/-- Finds out where the script is; what the environment says is believed if it can be true. -/
def findPath : Action Unit := do
  let frame ← get
  match (frame.lookup (bytes "PWD")).filter frame.isHere with
  | some path => notePath path
  | none => notePath (← physicalPath)

/-! ## Arguments -/

/-- What the arguments ask for: a script that is one of them, one in a file, or what is read from
the standard input. -/
inductive Request where
  | text (script : Bytes)
  | file (path : Bytes) (parameters : List Bytes)
  | input

/-- Names the script, and gives it its parameters. -/
def nameScript (name : Bytes) (parameters : List Bytes) : Action Unit :=
  modify fun frame => { frame with name, parameters }

/-- Reads the arguments. -/
def readArguments : Action Request := do
  let process := (← get).process
  nameScript process.calledAs []
  let (isText, rest) ← setOptions true process.operands
  match isText, rest.getD [] with
  | true, [] => Action.fail (bytes "-c requires an argument")
  | true, script :: args =>
    if let name :: parameters := args then nameScript name parameters
    return .text script
  | false, [] =>
    setOption 0x73 true
    return .input
  | false, path :: args =>
    if (← get).hasOption 's' then
      nameScript process.calledAs (path :: args)
      return .input
    else return .file path args

/-- How often the end of a script can be ignored. -/
def maxEnds : Nat := 50

/-- Runs the script of a file. If its end is to be ignored, it says how it can be left. -/
def runScript (runner : Runner) (file : Option Handle) : Action Unit := do
  let _ ← runner.runFile file
  if (← get).hasOption 'I' then
    let message := bytes "\nUse \"exit\" to leave shell.\n"
    let _ ← Action.write 2 (List.replicate maxEnds message).flatten

/-- Runs a shell. -/
def runShell (runner : Runner) : Action Unit := do
  findPath
  match ← readArguments with
  | .text script =>
    refuseMonitor
    let hasMore := (← get).hasOption 's'
    let _ ← runner.runText { final := !hasMore } script
    if hasMore then runScript runner ((← get).process.table.at? 0)
  | .file path parameters =>
    let file ← openPath .read path
    nameScript path parameters
    refuseMonitor
    runScript runner (some file)
  | .input => do
    refuseMonitor
    runScript runner ((← get).process.table.at? 0)

/-- The life of a process that is a shell, given what runs a program in the place of a process. -/
def start (execute : Process → Bytes → Machine → Except Errno Ending × Machine)
    (process : Process) (machine : Machine) : Ending × Machine :=
  let runner := Runner.ofDepth execute Runner.maxDepth
  runner.live (runShell runner) (Frame.ofProcess process machine)

end LineShell.Script
