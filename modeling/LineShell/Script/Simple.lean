import LineShell.Script.Builtin
import LineShell.Script.Life

/-!
# Simple commands

A simple command is run in steps: its words are expanded, and the first of them says what the
command is (`Head`); its redirections and then its assignments are carried out, and last it is run
as a builtin command, a function or a program. `Runner.runSimple` does all of it.
-/

namespace LineShell.Script

/-! ## The words of a command -/

/-- The arguments of a command: the fields that words have become, and the words to come. -/
structure Arguments where
  fields : List Bytes := []
  words : List Word

/-- The command that the first field of its arguments names. -/
structure Head where
  /-- The fields in front of it, which are about how it is found. -/
  before : List Bytes := []
  arguments : Arguments
  /-- What it is, if it is no program. -/
  own : Option Meaning := none
  noFunctions : Bool := false
  /-- Whether a failure of it ends the script. -/
  isSpecial : Bool := false
  /-- Whether its assignments hold for it alone. -/
  isLocal : Bool := false
  /-- Whether it is looked for where the standard programs are. -/
  isStandard : Bool := false

namespace Head

/-- The builtin command that it is. -/
def builtin? (head : Head) : Option Builtin :=
  match head.own with
  | some (.builtin builtin) => some builtin
  | _ => none

def isNamed (head : Head) (name : String) : Bool := head.builtin?.any (·.name = name)

end Head

variable (expand : Option Command → Action Bytes)

namespace Arguments

/-- Expands words until there is a field with an index, or no word is left. -/
def fill (index : Nat) (fields : List Bytes) : List Word → Action Arguments
  | [] => return ⟨fields, []⟩
  | word :: words => do
    if index < fields.length then return ⟨fields, word :: words⟩
    else fill index (fields ++ (← expandFields expand word)) words

/-- The arguments with the field at an index, if there is one. -/
def upTo (arguments : Arguments) (index : Nat) : Action Arguments :=
  fill expand index arguments.fields arguments.words

end Arguments

/-- How often a command can say how the command behind it is found. -/
def maxPrefixes : Nat := 10000

/-- Reads options of `command` from the field at an index on. The result says how many fields
stand before the command that is meant; there is none if the options do not name one. -/
def skipOptions : Nat → Nat → Head → Action (Option Nat × Head)
  | 0, _, head => return (none, head)
  | fuel + 1, index, head => do
    let arguments ← head.arguments.upTo expand index
    let head := { head with arguments }
    match arguments.fields[index]? with
    | none => return (none, head)
    | some [0x2d, 0x2d] =>
      let arguments ← arguments.upTo expand (index + 1)
      let count := if index + 1 < arguments.fields.length then some (index + 1) else none
      return (count, { head with arguments })
    | some (0x2d :: b :: letters) =>
      let isStandard : Bool := head.isStandard || b = 0x70
      if (b :: letters).all (· = 0x70) then skipOptions fuel (index + 1) { head with isStandard }
      else return (none, { head with isStandard })
    | some _ => return (some index, head)

/-- Finds out what a command is, up to the command that stands behind others which only say how it
is found. -/
def findHead : Nat → Head → Action Head
  | 0, head => return head
  | fuel + 1, head => do
    match head.arguments.fields.head? with
    | none => return head
    | some name =>
      let frame ← get
      let own := if name.contains Bytes.slash then none
        else frame.ownMeaning? head.noFunctions name
      let head := { head with own, isLocal := true }
      match head.builtin? with
      | none => return head
      | some builtin =>
        let isFirst := head.before.isEmpty
        let head := { head with
          isSpecial := if isFirst then builtin.isSpecial else head.isSpecial
          isLocal := !(isFirst && builtin.isSpecial) }
        if builtin.name ≠ "command" then return head
        let (count, head) ← skipOptions expand maxPrefixes 1 head
        match count with
        | none => return head
        | some count =>
          findHead fuel { head with
            before := head.before ++ head.arguments.fields.take count
            arguments := { head.arguments with fields := head.arguments.fields.drop count }
            noFunctions := true }

/-- Expands the words of a command, as far as needed to know what it is. -/
def headOf (words : List Word) : Action Head := do
  findHead expand maxPrefixes { arguments := ← Arguments.fill expand 0 [] words }

/-- Expands the other words of a command. -/
def Head.fields (head : Head) : Action (List Bytes) := do
  let assigns := head.builtin?.any (·.assigns)
  let more ← head.arguments.words.mapM fun word => do
    if assigns && word.isAssignment then return [← expandText expand .assignment word]
    else expandFields expand word
  return head.arguments.fields ++ more.flatten

/-- Expands a text that is shown in front of a traced command. -/
def expandPrompt (text : Bytes) : Action Bytes := do
  let frame ← get
  let reader : Reader := { text, closed := true, documents := frame.documents }
  match readWord (Nested.ofDepth maxDepth) { quoting := .double, document := true } reader with
  | .ok word reader =>
    set { frame with documents := reader.documents, options := frame.options.filter (· ≠ 0x78) }
    let prompt ← expandText expand {} word
    modify fun after => { after with options := frame.options }
    return prompt
  | .error _ _ => return text

/-- Shows a command that is about to be run, if the script is to do so. -/
def trace (file : Option Handle) (texts : List Bytes) : Action Unit := do
  if (← get).hasOption 'x' then
    let prompt ← expandPrompt expand (((← get).lookup (bytes "PS4")).getD [])
    let frame ← get
    match file with
    | none => return
    | some file =>
      let line := prompt ++ join Bytes.space texts ++ [Bytes.newline]
      set { frame with machine := (frame.machine.write file line).2 }

/-- The number that a redirection is about. -/
def Opening.number : Opening → Nat
  | file number .. => number
  | copy number _ => number
  | document number _ => number

namespace Runner

/-! ## Builtin commands that run others -/

/-- Runs the arguments as commands. -/
def runEval (runner : Runner) (flags : Flags) (args : List Bytes) : Action Nat :=
  if args.tail.isEmpty then return 0
  else runner.runText { tested := flags.tested } (join Bytes.space args.tail)

/-- The file that a name means to `.`. -/
def findSource (name : Bytes) : Action Bytes := do
  let frame ← get
  if name.contains Bytes.slash then return name
  else
    let paths := Frame.candidates frame.searchPath name
    match paths.find? fun path => (frame.nodeAt? path).any Frame.isRegular with
    | some path => return path
    | none => Action.fail (name ++ bytes ": not found")

/-- Runs a file as a part of the script. -/
def runDot (runner : Runner) (args : List Bytes) : Action Nat := do
  match ← operands args.tail with
  | [] => return 0
  | name :: _ =>
    let path ← findSource name
    let file ← openPath .read path
    modify fun frame => { frame with command := some path }
    runner.runFile (some file)

/-- The places where the program of some arguments can be. -/
def pathsOf (searchPath : Bytes) (args : List Bytes) : List Bytes :=
  let name := args.head?.getD []
  if name.contains Bytes.slash then [name] else Frame.candidates searchPath name

/-- Turns the script into a program. -/
def runExec (runner : Runner) (args : List Bytes) : Action Nat := do
  match ← operands args.tail with
  | [] => return 0
  | args => runner.become (pathsOf (← get).searchPath args) args

/-- Fails because no process can be brought to the front or sent to the background. -/
def runForeground (args : List Bytes) : Action Nat := do
  match args.tail with
  | [] => Action.fail (bytes "No current job")
  | job :: _ => Action.fail (bytes "No such job: " ++ job)

/-- How a builtin command is carried out. -/
def builtinAction (runner : Runner) (flags : Flags) (name : String) (args : List Bytes) :
    Action Nat :=
  match name with
  | "eval" => runner.runEval flags args
  | "." => runner.runDot args
  | "exec" => runner.runExec args
  | "bg" => runForeground args
  | "fg" => runForeground args
  | "times" => do
    Action.print (bytes "0m0.000000s 0m0.000000s\n0m0.000000s 0m0.000000s\n")
    return 0
  | "ulimit" => do
    let _ ← options "HSatfdscmlpnvwr" args.tail
    Action.printLine (bytes "unlimited")
    return 0
  | name =>
    match builtinAction? name with
    | some action => action args
    | none => return 0

/-- Writes what a builtin command has printed; a command whose output is lost fails. -/
def flush (name : Bytes) (status : Nat) : Action Nat := do
  let output := (← get).output
  let isLost ← if output.isEmpty then pure false else (! ·) <$> Action.write 1 output
  if isLost then Action.warn (name ++ bytes ": I/O error")
  return if isLost then status ||| 1 else status

/-- Runs a builtin command. If it fails, only a special one ends the script. -/
def runBuiltin (runner : Runner) (flags : Flags) (isSpecial : Bool) (builtin : Builtin)
    (args : List Bytes) : Action Nat := do
  let before := (← get).command
  let name := args.head?.getD []
  modify fun frame => { frame with command := some name, output := [] }
  let result ← Action.catchJump do
    let status ← flush name (← runner.builtinAction flags builtin.name args)
    Action.setStatus status
  modify fun frame => { frame with command := before, output := [] }
  match result with
  | .ok _ => pure ()
  | .error .failure => if isSpecial then throw .failure
  | .error jump => throw jump
  return (← get).status

/-! ## Functions -/

/-- Calls a function. -/
def callFunction (runner : Runner) (flags : Flags) (args : List Bytes) (command : Command) :
    Action Nat := do
  let before ← get
  set { before with
    parameters := args.tail
    optionIndex := 1
    optionOffset := none
    loops := 0
    inFunction := true }
  let restore : Action Unit := modify fun frame => { frame with
    parameters := before.parameters
    optionIndex := before.optionIndex
    optionOffset := before.optionOffset
    loops := before.loops
    inFunction := before.inFunction
    skip := match frame.skip with
      | .function _ => .nothing
      | skip => skip }
  Action.andFinally
    (do let _ ← runner.run { tested := flags.tested } (some command)) restore
  return (← get).status

/-! ## Running them -/

/-- Runs a command whose redirections and assignments have been carried out. -/
def runFields (runner : Runner) (flags : Flags) (head : Head) (fields : List Bytes) :
    Action Nat := do
  match fields, head.builtin? with
  | [], _ => return (← get).outputStatus
  | _, some builtin => runner.runBuiltin flags head.isSpecial builtin fields
  | name :: _, none =>
    match ← meaningOf head.noFunctions head.isStandard name with
    | .unknown cause =>
      Action.warn (name ++ bytes ": " ++ executionText cause)
      return 127
    | .builtin builtin => runner.runBuiltin flags head.isSpecial builtin fields
    | .function command => runner.callFunction flags fields command
    | .program paths => runner.runProgram flags paths fields

/-- Carries out the assignments of a command. -/
def assignAll (head : Head) (exported : Bool) (assignments : List Word) : Action (List Bytes) :=
  assignments.mapM fun word => do
    let entry ← expandText expand .assignment word
    if head.isLocal then Action.makeLocal entry true else Action.assign entry exported
    return entry

/-- Runs a simple command. The redirections of `exec` last, all others end with the command. -/
def runSimple (runner : Runner) (flags : Flags) (line : Nat) (assignments words : List Word)
    (redirects : List Redirect) : Action Nat := do
  modify fun frame => { frame with line, outputStatus := 0 }
  let head ← headOf runner.substitute words
  let fields ← head.fields runner.substitute
  let isExec := head.isNamed "exec"
  let before ← get
  if head.isLocal then Action.pushLevel
  Action.andFinally (do
    let openings ← redirects.mapM (expandRedirect runner.substitute)
    let result ← Action.catchJump do
      if !(← succeeds (openAll runner.substitute openings)) then
        Action.setStatus 2
        if head.isSpecial then throw .failure else return 2
      let exported : Bool := isExec && 1 < fields.length
      let entries ← assignAll runner.substitute head exported assignments
      trace runner.substitute (before.process.table.at? 2) (entries ++ head.before ++ fields)
      runner.runFields flags head fields
    if !(isExec && result.toOption.isSome) then
      openings.forM fun opening =>
        putDescriptor opening.number (before.process.table.at? opening.number)
    Action.rethrow result) (Action.popLevels before.saved.length)

end Runner

end LineShell.Script
