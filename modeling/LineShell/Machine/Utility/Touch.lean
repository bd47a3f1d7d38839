import LineShell.Machine.Utility.Date

/-!
# Making empty files

`runTouch` makes the files named that are missing, and gives all of them a time.
-/

namespace LineShell.Utility

/-- The option for what time is meant, which has no letter. -/
def timeKey : UInt8 := 0x82

def touchFlags : List Flag := [
  { key := timeKey, name := "time", takesValue := true, hasLetter := false },
  { key := 0x63, name := "no-create" },
  { key := 0x64, name := "date", takesValue := true },
  { key := 0x72, name := "reference", takesValue := true },
  { key := 0x68, name := "no-dereference" },
  { key := 0x61, name := "" },
  { key := 0x66, name := "" },
  { key := 0x6d, name := "" },
  { key := 0x74, name := "", takesValue := true }]

/-- The words for the time of the last use, and those for the time of the last change. -/
def useWords : List Bytes := ["atime", "access", "use"].map bytes
def changeWords : List Bytes := ["mtime", "modify"].map bytes

/-- Whether a word for a time means the last use. The beginning of a word is enough if it is the
same for no other. -/
def meansUse? (word : Bytes) : Except Bytes Bool :=
  let mention (kind : String) : Bytes :=
    let line (words : List Bytes) : Bytes :=
      bytes "\n  - " ++ (bytes ", ").intercalate (words.map cited)
    bytes kind ++ bytes " argument " ++ cited word ++ bytes " for '--time'\nValid arguments are:" ++
      line useWords ++ line changeWords
  let isMeant (words : List Bytes) : Bool := words.any word.isPrefixOf
  match isMeant useWords, isMeant changeWords with
  | true, false => .ok true
  | false, true => .ok false
  | true, true => .error (mention "ambiguous")
  | false, false => .error (mention "invalid")

def invalidDate (text : Bytes) : Bytes := bytes "invalid date format " ++ cited text

/-- Complains about an option as soon as it has been read, if it says what makes no sense. -/
def acceptTouchOption (process : Process) : Given → Task Bool
  | (_, none) => return true
  | (key, some value) => do
    if key = 0x74 && (Date.ofStamp? value).isNone then
      complain process (invalidDate value)
      return false
    if key = timeKey then
      if let .error message := meansUse? value then
        refuse process message
        return false
    return true

/-- Whether options ask for the time of the last change; they do if they ask for none. -/
def setsChange (options : Options) : Bool :=
  let meant := options.given.filterMap fun (key, word) =>
    if key = 0x61 then some true
    else if key = 0x6d then some false
    else if key = timeKey then word.bind fun word => (meansUse? word).toOption
    else none
  meant.isEmpty || meant.contains false

/-- The file at a path; if the option h is given, a link is the file itself. -/
def fileMeant (process : Process) (options : Options) (machine : Machine) (path : Bytes) :
    Except Errno Nat :=
  let here := process.standpoint machine
  if options.has 'h' then machine.tree.walkToLink here path else machine.tree.walk here path

/-- The time that options ask for, or what is wrong with them; without a time it is now. -/
def touchTime (process : Process) (options : Options) (machine : Machine) :
    Except Bytes (Option Int) :=
  let written? : Except Bytes (Option Int) :=
    match options.value? 'd' with
    | none => .ok none
    | some text =>
      match Date.ofText? text with
      | some time => .ok (some time)
      | none => .error (invalidDate text)
  match options.value? 't', options.value? 'r' with
  | some text, _ => .ok (Date.ofStamp? text)
  | none, some path =>
    match fileMeant process options machine path with
    | .ok node => do return (← written?) <|> machine.times.lookup node
    | .error cause =>
      .error (bytes "failed to get attributes of " ++ quoted path ++ bytes ": " ++
        cause.systemText.utf8)
  | none, none => written?

/-- Gives a file a time, unless only that of its last use is meant. -/
def setTime (options : Options) (time : Option Int) (node : Nat) : Task Unit :=
  if setsChange options then modifyThe Machine (·.setTime node time) else return

/-- Gives a file a time, and makes it if it is missing, unless the option c or h forbids it; a dash
is the output. -/
def touchOne (process : Process) (options : Options) (time : Option Int) (operand : Bytes) :
    Task Bool := do
  match fileMeant process options (← getThe Machine) operand with
  | .ok node => do
    setTime options time node
    return true
  | .error cause =>
    if operand = bytes "-" then return true
    else if options.has 'c' then
      if cause = .noEntry then return true
      complainOf process (bytes "setting times of " ++ quoted operand) cause
      return false
    else if options.has 'h' then
      complainOf process (bytes "setting times of " ++ quoted operand) cause
      return false
    else
      match ← process.openFile operand .write Machine.fileMode with
      | .ok handle => do
        if let some file := (← getThe Machine).file? handle then setTime options time file.node
        return true
      | .error refusal => do
        if refusal = .isDirectory then
          complainOf process (bytes "setting times of " ++ quoted operand) cause
        else complainOf process (bytes "cannot touch " ++ quoted operand) refusal
        return false

def runTouch (process : Process) : Task Nat :=
  let action (options : Options) : Task Nat := do
    if options.has 't' && (options.has 'd' || options.has 'r') then
      refuse process (bytes "cannot specify times from more than one source")
      return 1
    match touchTime process options (← getThe Machine) with
    | .error message => do
      complain process message
      return 1
    | .ok time =>
      forEachGiven process "file operand" options.operands (touchOne process options time)
  withOptions process touchFlags false 1 action (acceptTouchOption process)

end LineShell.Utility
