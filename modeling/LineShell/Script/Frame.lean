import LineShell.Machine.Process
import LineShell.Script.Parser
import LineShell.Script.Signal

/-!
# The state of a shell

A `Frame` is a shell that runs a script: its process, its variables, and all else that commands
of the script can change. An `Action` works on it and can end in a `Jump` out of the commands that
are being run.
-/

namespace LineShell.Script

structure Variable where
  name : Bytes
  /-- A variable without a value is not set, but keeps its other properties. -/
  value : Option Bytes
  exported : Bool := false
  readOnly : Bool := false
  /-- Whether it keeps its properties when it is unset. -/
  permanent : Bool := false
  deriving DecidableEq, Repr

/-- Where a program has been found: at one of the places where programs are looked for. It is looked
for again if the working directory has changed since then. -/
structure Location where
  name : Bytes
  index : Nat
  isStale : Bool := false
  deriving DecidableEq, Repr

/-- What is kept of a variable, or of the options, while something local takes its place. -/
inductive Saved where
  | variable (name : Bytes) (before : Option Variable)
  | options (before : Bytes)
  deriving DecidableEq, Repr

/-- What commands are passed over. -/
inductive Skip where
  | nothing
  /-- To the end of so many loops, of which the last one goes on or not. -/
  | loops (count : Nat) (goesOn : Bool)
  /-- To the end of the function or the file; a status may have been given. -/
  | function (withStatus : Bool)
  deriving DecidableEq, Repr

/-- A shell that runs a script. -/
structure Frame where
  machine : Machine
  process : Process
  /-- The name by which the script knows itself, and its arguments. -/
  name : Bytes
  parameters : List Bytes := []
  records : List Variable := []
  /-- What is restored when commands and functions end, the innermost first. -/
  saved : List (List Saved) := []
  functions : List (Bytes × Command) := []
  aliases : List (Bytes × Bytes) := []
  /-- The programs that have been found. -/
  locations : List Location := []
  documents : Array Word := #[]
  /-- The letters of the options that are on. -/
  options : Bytes := []
  status : Nat := 0
  /-- The status of the last command whose output was substituted. -/
  outputStatus : Nat := 0
  /-- The path of the working directory, as the script has gone there. -/
  path : Bytes := []
  /-- Where the command stands that is being run, and its name if it is built in. -/
  line : Nat := 0
  command : Option Bytes := none
  skip : Skip := .nothing
  loops : Nat := 0
  inFunction : Bool := false
  /-- The process number of the whole script. -/
  number : Nat
  /-- The numbers of commands in the background, and their statuses. -/
  jobs : List (Nat × Nat) := []
  /-- The number of the last command in the background. -/
  lastJob : Option Nat := none
  traps : List (Nat × Bytes) := []
  /-- Signals that have come and wait for their traps. -/
  pending : List Nat := []
  /-- The signals that were ignored from the beginning. -/
  ignoredBefore : List Nat := []
  /-- The status to exit with, if it has been given. -/
  exitStatus : Option Nat := none
  /-- Which argument is read next for options, and how far the one before has been read. -/
  optionIndex : Nat := 1
  optionOffset : Option Nat := none
  /-- What the command has printed that has not been written yet. -/
  output : Bytes := []

/-- Why commands that are being run are left. -/
inductive Jump where
  /-- A command has failed so badly that the script cannot go on. -/
  | failure
  /-- The script ends, with a status that may have been given. -/
  | exit
  /-- The script ends with the status of the last command. -/
  | finish
  /-- The process has ended. -/
  | gone (ending : Ending)
  deriving DecidableEq, Repr

abbrev Action := ExceptT Jump (StateM Frame)

namespace Frame

/-! ## Variables -/

def record? (frame : Frame) (name : Bytes) : Option Variable :=
  frame.records.find? (·.name = name)

/-- The value of a variable, if it is set. -/
def lookup (frame : Frame) (name : Bytes) : Option Bytes := (frame.record? name).bind (·.value)

def hasOption (frame : Frame) (letter : Char) : Bool := frame.options.contains letter.toUInt8

/-- Forgets where programs are if the variable that says so changes. -/
def forgetFor (frame : Frame) (name : Bytes) : Frame :=
  if name = bytes "PATH" then { frame with locations := [] } else frame

/-- Puts a variable in place of the one with its name. -/
def putVariable (frame : Frame) (new : Variable) : Frame :=
  let frame := frame.forgetFor new.name
  if frame.records.any (·.name = new.name) then
    { frame with records := frame.records.map fun v => if v.name = new.name then new else v }
  else { frame with records := frame.records ++ [new] }

def removeVariable (frame : Frame) (name : Bytes) : Frame :=
  let frame := frame.forgetFor name
  { frame with records := frame.records.filter (·.name ≠ name) }

/-- In which of so many groups a name is kept. -/
def bucketOf (count : Nat) (name : Bytes) : Nat :=
  let first := (name.head?.map UInt8.toNat).getD 0
  name.foldl (fun n b => n + b.toNat) (16 * first) % count

/-- In which order variables are handed on. -/
def bucket (name : Bytes) : Nat := bucketOf 39 name

/-- The environment for programs. -/
def environment (frame : Frame) : List Bytes :=
  let exported := frame.records.filter (·.exported)
  (exported.mergeSort fun a b => bucket a.name ≤ bucket b.name).filterMap fun v =>
    v.value.map fun value => v.name ++ Bytes.equals :: value

/-- Where programs are looked for. -/
def searchPath (frame : Frame) : Bytes := (frame.lookup (bytes "PATH")).getD []

/-- The places where a file may be that is named without a slash, in order. -/
def candidates (searchPath name : Bytes) : List Bytes :=
  (split Bytes.colon searchPath).map fun dir =>
    if dir.isEmpty then name else dir ++ Bytes.slash :: name

/-- The place of a program among others, as far as it is known. -/
def location? (frame : Frame) (name : Bytes) : Option Location :=
  frame.locations.find? (·.name = name)

def forgetProgram (frame : Frame) (name : Bytes) : Frame :=
  { frame with locations := frame.locations.filter (·.name ≠ name) }

/-- The programs that have been found, in the order in which they are shown. -/
def sortedLocations (frame : Frame) : List Location :=
  frame.locations.mergeSort fun a b => bucketOf 31 a.name ≤ bucketOf 31 b.name

/-! ## Files -/

def standpoint (frame : Frame) : Standpoint := frame.process.standpoint frame.machine

/-- The node to which a path leads. -/
def walk (frame : Frame) (path : Bytes) : Except Errno Nat :=
  frame.machine.tree.walk frame.standpoint path

/-- What is at a path. -/
def nodeAt? (frame : Frame) (path : Bytes) : Option Node :=
  (frame.walk path).toOption.bind frame.machine.tree.node?

/-- Whether a node is a file that is not special. -/
def isRegular : Node → Bool
  | .file .. => true
  | .program _ => true
  | _ => false

def isDirectoryAt (frame : Frame) (path : Bytes) : Bool :=
  match frame.nodeAt? path with
  | some (.directory ..) => true
  | _ => false

end Frame

/-- Why a program could not be executed, in the words of the shell. -/
def executionText (cause : Errno) : Bytes :=
  if cause = .noEntry || cause = .notDirectory then bytes "not found" else cause.systemText.utf8

namespace Action

/-! ## Messages -/

/-- Writes to a descriptor; the result says whether that has worked. -/
def write (number : Nat) (data : Bytes) : Action Bool := do
  let frame ← get
  let (result, machine) := frame.process.write number data frame.machine
  set { frame with machine }
  return result.toOption.isSome

/-- Prints at the end of the command that is being run. -/
def print (data : Bytes) : Action Unit :=
  modify fun frame => { frame with output := frame.output ++ data }

def printLine (line : Bytes) : Action Unit := print (line ++ [Bytes.newline])

/-- Complains about the command that is being run. -/
def warn (message : Bytes) : Action Unit := do
  let frame ← get
  let command := match frame.command with
    | some command => command ++ bytes ": "
    | none => []
  let _ ← write 2 (frame.name ++ bytes s!": {frame.line}: " ++ command ++ message ++
    [Bytes.newline])

/-- Gives up with a complaint. -/
def fail {α : Type} (message : Bytes) : Action α := do
  warn message
  modify fun frame => { frame with status := 2 }
  throw .failure

/-! ## Numbers -/

def badNumber {α : Type} (text : Bytes) : Action α := fail (bytes "Illegal number: " ++ text)

/-- The number that a text is, in decimal digits. -/
def integer (text : Bytes) : Action Int :=
  match Arithmetic.number? false text with
  | some n => return n
  | none => badNumber text

/-- The number that an argument is; it cannot be negative or very large. -/
def number (text : Bytes) : Action Nat := do
  let n ← integer text
  if n < 0 || 2147483647 < n then badNumber text else return n.toNat

/-! ## Variables -/

/-- Gives a variable a value, or takes it away, and adds properties. -/
def setVariable (name : Bytes) (value : Option Bytes) (exported : Bool := false)
    (readOnly : Bool := false) (permanent : Bool := false) : Action Unit := do
  if !isName name then fail (name ++ bytes ": bad variable name")
  let frame ← get
  let exported := exported || frame.hasOption 'a'
  match frame.record? name with
  | some before =>
    if before.readOnly then fail (name ++ bytes ": is read only")
    if name = bytes "OPTIND" then
      let index ← number (value.getD [])
      modify fun frame => { frame with optionIndex := max 1 index, optionOffset := none }
    if value.isNone && !exported && !readOnly && !permanent && !before.permanent then
      modify (·.removeVariable name)
    else
      modify (·.putVariable { before with
        value
        exported := before.exported || exported
        readOnly
        permanent := before.permanent || permanent })
  | none =>
    if value.isSome || exported || readOnly || permanent then
      set (frame.putVariable { name, value, exported, readOnly, permanent })

/-- Gives a variable the value that stands after its name. -/
def assign (entry : Bytes) (exported : Bool := false) : Action Unit :=
  match cutAt Bytes.equals entry with
  | some (name, value) => setVariable name (some value) exported
  | none => setVariable entry none exported

/-- Keeps a variable, so that it is restored when the innermost function or command ends, and sets
it if the entry has a value. -/
def makeLocal (entry : Bytes) (exported : Bool := false) : Action Unit := do
  let frame ← get
  let keep (saved : Saved) : Action Unit :=
    modify fun frame => { frame with
      saved := match frame.saved with
        | level :: levels => (saved :: level) :: levels
        | [] => [] }
  if entry = bytes "-" then keep (.options frame.options)
  else
    let (name, value?) := match cutAt Bytes.equals entry with
      | some (name, value) => (name, some value)
      | none => (entry, none)
    let before := frame.record? name
    if value?.isSome || before.isNone then
      setVariable name value? exported false true
    keep (.variable name before)

/-- Begins a part of the script at the end of which local variables are restored. -/
def pushLevel : Action Unit := modify fun frame => { frame with saved := [] :: frame.saved }

/-- Ends parts of the script, down to the given number of them. -/
def popLevels (count : Nat) : Action Unit :=
  modify fun frame =>
    let ended := (frame.saved.take (frame.saved.length - count)).flatten
    let restored := ended.foldl (fun (frame : Frame) saved =>
      match saved with
      | .options before => { frame with options := before }
      | .variable name none => frame.removeVariable name
      | .variable _ (some before) => frame.putVariable before) frame
    { restored with saved := frame.saved.drop (frame.saved.length - count) }

/-! ## Leaving commands -/

/-- The result of an action, or why it was left. -/
def catchJump {α : Type} (action : Action α) : Action (Except Jump α) :=
  fun frame =>
    let (result, frame) := action frame
    (.ok result, frame)

/-- Leaves with what another action was left with. -/
def rethrow {α : Type} : Except Jump α → Action α
  | .ok a => return a
  | .error jump => throw jump

/-- Does something at the end of an action, however it ends. -/
def andFinally {α : Type} (action : Action α) (finish : Action Unit) : Action α := do
  let result ← catchJump action
  finish
  rethrow result

def setStatus (status : Nat) : Action Unit := modify fun frame => { frame with status }

/-! ## Signals -/

/-- What a signal does to the process. -/
def receive (signal : Nat) : Action Unit := do
  let frame ← get
  if Signal.isFinal signal then throw (.gone (.killed signal))
  else if frame.process.ignored.contains signal then return
  else if (frame.traps.lookup signal).isSome then
    set { frame with pending := frame.pending ++ [signal] }
  else if Signal.isHarmless signal then return
  else throw (.gone (.killed signal))

/-- Receives the signals that other processes have sent. -/
def receiveAll : Action Unit := do
  let frame ← get
  let own := frame.process.number
  let signals := frame.machine.signals.filter (·.1 = own)
  if !signals.isEmpty then
    let machine := { frame.machine with
      signals := frame.machine.signals.filter (·.1 ≠ own) }
    set { frame with machine }
    signals.forM fun (_, signal) => receive signal

end Action

end LineShell.Script
