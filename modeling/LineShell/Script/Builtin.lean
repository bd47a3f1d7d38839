import LineShell.Machine.Utility.Mode
import LineShell.Script.Condition
import LineShell.Script.Expansion
import LineShell.Script.Format

/-!
# Builtin commands

Commands that the shell itself carries out. Each is given its arguments and ends with a status. A
special one that fails ends the script; one that assigns takes its arguments as assignments. The
commands that run others are not here.
-/

namespace LineShell.Script

/-! ## Options -/

/-- Reads options; a letter that a colon follows takes a value. -/
def readOptions (letters : String) : Nat → List Bytes → Action (List (UInt8 × Bytes) × List Bytes)
  | 0, args => return ([], args)
  | fuel + 1, args => do
    match args with
    | [0x2d, 0x2d] :: rest => return ([], rest)
    | (0x2d :: b :: group) :: rest =>
      let (given, rest) ← readGroup (b :: group) rest
      let (more, rest) ← readOptions letters fuel rest
      return (given ++ more, rest)
    | _ => return ([], args)
where
  /-- Reads the letters of one argument. -/
  readGroup : Bytes → List Bytes → Action (List (UInt8 × Bytes) × List Bytes)
    | [], rest => return ([], rest)
    | b :: group, rest => do
      let known := bytes letters
      let behind := known.dropWhile (· ≠ b)
      if behind.isEmpty || b = Bytes.colon then
        Action.fail (bytes "Illegal option -" ++ [b])
      else if behind.tail.head? = some Bytes.colon then
        match group, rest with
        | [], [] => Action.fail (bytes "No arg for -" ++ b :: bytes " option")
        | [], value :: rest => return ([(b, value)], rest)
        | value, rest => return ([(b, value)], rest)
      else
        let (given, rest) ← readGroup group rest
        return ((b, []) :: given, rest)

/-- Reads options. -/
def options (letters : String) (args : List Bytes) :
    Action (List (UInt8 × Bytes) × List Bytes) :=
  readOptions letters (args.length + 1) args

/-- The arguments of a command that has no options. -/
def operands (args : List Bytes) : Action (List Bytes) := return (← options "" args).2

/-! ## Quoting -/

/-- A text in quotes. -/
def singleQuoted (text : Bytes) : Bytes :=
  let rec go : Nat → Bytes → Bytes
    | 0, _ => []
    | fuel + 1, text =>
      let plain := text.takeWhile (· ≠ 0x27)
      let quotes := (text.drop plain.length).takeWhile (· = 0x27)
      let rest := text.drop (plain.length + quotes.length)
      bytes "'" ++ plain ++ bytes "'" ++
        (if quotes.isEmpty then [] else bytes "\"" ++ quotes ++ bytes "\"") ++
        (if rest.isEmpty then [] else go fuel rest)
  go (text.length + 1) text

/-! ## Variables -/

/-- Prints variables in such a way that they can be read again. -/
def listVariables (word : Bytes) (isShown : Variable → Bool) : Action Unit := do
  let shown := (← get).records.filter isShown
  let before := if word.isEmpty then [] else word ++ [Bytes.space]
  let entry (v : Variable) : Bytes :=
    match v.value with
    | some value => v.name ++ Bytes.equals :: singleQuoted value
    | none => v.name
  let sorted := shown.mergeSort fun a b => Bytes.le a.name b.name
  Action.print (sorted.flatMap fun v => before ++ entry v ++ [Bytes.newline])

/-- Gives properties to variables, or shows those that have them. -/
def runExport (args : List Bytes) : Action Nat := do
  let command := (args.head?).getD []
  let readOnly : Bool := command = bytes "readonly"
  let (given, names) ← options "p" args.tail
  if !given.isEmpty || names.isEmpty then
    listVariables command fun v => if readOnly then v.readOnly else v.exported
  else
    names.forM fun entry => do
      match cutAt Bytes.equals entry, (← get).record? entry with
      | some (name, value), _ => Action.setVariable name (some value) (!readOnly) readOnly
      | none, some v =>
        modify (·.putVariable { v with
          exported := v.exported || !readOnly
          readOnly := v.readOnly || readOnly })
      | none, none => Action.setVariable entry none (!readOnly) readOnly
  return 0

def runLocal (args : List Bytes) : Action Nat := do
  if (← get).saved.isEmpty then Action.fail (bytes "not in a function")
  let names ← operands args.tail
  names.forM (Action.makeLocal ·)
  return 0

def runUnset (args : List Bytes) : Action Nat := do
  let (given, names) ← options "vf" args.tail
  if given.getLast?.any (·.1 = 0x66) then
    modify fun frame => { frame with
      functions := frame.functions.filter fun (name, _) => !names.contains name }
  else
    names.forM fun name => Action.setVariable name none
  return 0

/-! ## Options and arguments of the script -/

/-- The names and letters of the options. -/
def optionNames : List (String × Char) := [
  ("errexit", 'e'), ("noglob", 'f'), ("ignoreeof", 'I'), ("interactive", 'i'), ("monitor", 'm'),
  ("noexec", 'n'), ("stdin", 's'), ("xtrace", 'x'), ("verbose", 'v'), ("vi", 'V'),
  ("emacs", 'E'), ("noclobber", 'C'), ("allexport", 'a'), ("notify", 'b'), ("nounset", 'u'),
  ("nolog", '\x00'), ("debug", '\x01')]

/-- Turns an option on or off. -/
def setOption (letter : UInt8) (on : Bool) : Action Unit := do
  if optionNames.any fun (_, known) => known.toUInt8 = letter && 1 < letter then
    modify fun frame =>
      let others := frame.options.filter (· ≠ letter)
      { frame with options := if on then others ++ [letter] else others }
  else Action.fail (bytes "Illegal option " ++ [if on then 0x2d else 0x2b, letter])

/-- Turns an option on or off that is given by its name, or shows them all. -/
def setNamedOption (name : Option Bytes) (on : Bool) : Action Unit := do
  match name with
  | none =>
    let frame ← get
    let isOn (letter : Char) : Bool := frame.hasOption letter
    if on then
      Action.printLine (bytes "Current option settings")
      optionNames.forM fun (name, letter) =>
        Action.printLine (bytes (name ++ String.ofList (List.replicate (16 - name.length) ' ') ++
          (if isOn letter then "on" else "off")))
    else
      optionNames.forM fun (name, letter) =>
        Action.printLine (bytes ("set " ++ (if isOn letter then "-o " else "+o ") ++ name))
  | some name =>
    match optionNames.find? fun (known, _) => bytes known = name with
    | some (_, letter) => if letter.toNat < 2 then return else setOption letter.toUInt8 on
    | none =>
      Action.fail (bytes (if on then "Illegal option -o " else "Illegal option +o ") ++ name)

/-- Reads the options of the shell at the beginning of some arguments. The first result says
whether one of them asks for a script among the arguments, if that is possible; the second one is
the rest of the arguments, if there are any or they have been ended. -/
def setOptions (isStart : Bool) : List Bytes → Action (Bool × Option (List Bytes))
  | [] => return (false, none)
  | arg :: rest => do
    match arg with
    | [0x2d] =>
      if !isStart then
        setOption 0x78 false
        setOption 0x76 false
      return (false, if isStart || !rest.isEmpty then some rest else none)
    | [0x2d, 0x2d] => return (false, some rest)
    | sign :: letters =>
      if sign ≠ 0x2d && sign ≠ 0x2b then return (false, some (arg :: rest))
      let on : Bool := sign = 0x2d
      let takesName := letters.contains 0x6f
      let isScript := isStart && letters.contains 0x63
      letters.forM fun letter => do
        if letter = 0x6f then setNamedOption rest.head? on
        else if isStart && (letter = 0x63 || letter = 0x6c) then return
        else setOption letter on
      match takesName, rest with
      | true, _ :: rest =>
        let (again, rest) ← setOptions isStart rest
        return (isScript || again, rest)
      | _, rest =>
        let (again, rest) ← setOptions isStart rest
        return (isScript || again, rest)
    | [] => return (false, some (arg :: rest))

/-- Turns job control off again, since there is no terminal. -/
def refuseMonitor : Action Unit := do
  if (← get).hasOption 'm' then
    Action.warn (bytes "can't access tty; job control turned off")
    setOption 0x6d false

def runSet (args : List Bytes) : Action Nat := do
  if args.length = 1 then listVariables [] fun v => v.value.isSome
  else
    let (_, parameters?) ← setOptions false args.tail
    refuseMonitor
    if let some parameters := parameters? then
      modify fun frame => { frame with parameters, optionIndex := 1, optionOffset := none }
  return 0

def runShift (args : List Bytes) : Action Nat := do
  let count ← match args.tail.head? with
    | some text => Action.number text
    | none => pure 1
  let frame ← get
  if frame.parameters.length < count then Action.fail (bytes "can't shift that many")
  set { frame with
    parameters := frame.parameters.drop count, optionIndex := 1, optionOffset := none }
  return 0

/-- Reads the next option of the script or of other arguments. -/
def runGetopts (args : List Bytes) : Action Nat := do
  let args ← operands args.tail
  match args with
  | letters :: name :: others =>
    let frame ← get
    let texts := if others.isEmpty then frame.parameters else others
    let (index, offset) := if texts.length + 1 < frame.optionIndex then (1, none)
      else (frame.optionIndex, frame.optionOffset)
    let group := match offset with
      | some offset => if 1 < index then ((texts[index - 2]?).getD []).drop offset else []
      | none => []
    let finish (letter : UInt8) (index : Nat) (rest : Bytes) (done : Bool) : Action Nat := do
      modify fun frame =>
        let before :=
          (frame.record? (bytes "OPTIND")).getD { name := bytes "OPTIND", value := none }
        { frame.putVariable { before with value := some (bytes (toString index)) } with
          optionIndex := index
          optionOffset := if done || rest.isEmpty then none
            else some (((texts[index - 2]?).getD []).length - rest.length) }
      Action.setVariable name (some [letter])
      return if done then 1 else 0
    let silent : Bool := letters.head? = some Bytes.colon
    let setArgument (value : Option Bytes) : Action Unit :=
      Action.setVariable (bytes "OPTARG") value
    let handle (b : UInt8) (rest : Bytes) (index : Nat) : Action Nat := do
      let behind := letters.dropWhile (· ≠ b)
      if behind.isEmpty || b = Bytes.colon then
        if silent then setArgument (some [b])
        else
          let _ ← Action.write 2 (bytes "Illegal option -" ++ [b, Bytes.newline])
          setArgument none
        finish 0x3f index rest false
      else if behind.tail.head? = some Bytes.colon then
        match rest, texts[index - 1]? with
        | [], none =>
          if silent then
            setArgument (some [b])
            finish Bytes.colon index [] false
          else
            let _ ← Action.write 2 (bytes "No arg for -" ++ b :: bytes " option\n")
            setArgument none
            finish 0x3f index [] false
        | [], some value =>
          setArgument (some value)
          finish b (index + 1) [] false
        | value, _ =>
          setArgument (some value)
          finish b index [] false
      else
        setArgument (some [])
        finish b index rest false
    match group, texts[index - 1]? with
    | b :: rest, _ => handle b rest index
    | [], some [0x2d, 0x2d] => finish 0x3f (index + 1) [] true
    | [], some (0x2d :: b :: rest) => handle b rest (index + 1)
    | [], _ => finish 0x3f index [] true
  | _ => Action.fail (bytes "Usage: getopts optstring var [arg...]")

/-! ## The working directory -/

/-- The path that one leads to from another, by its names alone. -/
def pathFrom (here path : Bytes) : Bytes :=
  let start := if path.head? = some Bytes.slash then [] else split Bytes.slash here
  let names := (start ++ split Bytes.slash path).foldl (fun (names : List Bytes) name =>
    if name.isEmpty || name = bytes "." then names
    else if name = bytes ".." then names.dropLast
    else names ++ [name]) []
  let doubled : Bool := match path with
    | 0x2f :: 0x2f :: b :: _ => b ≠ Bytes.slash
    | [0x2f, 0x2f] => true
    | _ => false
  (if doubled then [Bytes.slash] else []) ++ Bytes.slash :: join Bytes.slash names

/-- The path of the working directory as it is; if it has none, that is complained about. -/
def physicalPath : Action Bytes := do
  let frame ← get
  match frame.machine.tree.fullPathOf frame.process.dir with
  | .ok path => return path
  | .error cause =>
    Action.warn (bytes "getcwd() failed: " ++ cause.systemText.utf8)
    return []

/-- Remembers where the script is now. -/
def notePath (path : Bytes) : Action Unit := do
  modify fun frame => { frame with path }
  Action.setVariable (bytes "PWD") (some path) true

/-- Goes to a directory; the result says whether that was possible. -/
def enter (physical : Bool) (path : Bytes) : Action Bool := do
  let frame ← get
  let target := if physical || (frame.path.isEmpty && path.head? ≠ some Bytes.slash) then path
    else pathFrom frame.path path
  match frame.machine.tree.enter frame.standpoint target with
  | .error _ => return false
  | .ok dir =>
    let locations : List Location := frame.locations.map ({ · with isStale := true })
    set { frame with process := { frame.process with dir }, locations }
    Action.setVariable (bytes "OLDPWD") (some frame.path) true
    notePath (← if target = path && (physical || path.head? ≠ some Bytes.slash) then physicalPath
      else pure target)
    return true

/-- Whether options ask for the directory as it is. -/
def isPhysical (given : List (UInt8 × Bytes)) : Bool := given.getLast?.any (·.1 = 0x50)

def runCd (args : List Bytes) : Action Nat := do
  let (given, rest) ← options "LP" args.tail
  let frame ← get
  let (target, prints) : Bytes × Bool := match rest.head? with
    | none => ((frame.lookup (bytes "HOME")).getD [], false)
    | some arg =>
      if arg = bytes "-" then ((frame.lookup (bytes "OLDPWD")).getD [], true) else (arg, false)
  let names := split Bytes.slash target
  let isDirect : Bool := target.head? = some Bytes.slash ||
    names.head?.any fun name => name = bytes "." || name = bytes ".."
  let dest := if target.isEmpty then bytes "." else target
  let places := match frame.lookup (bytes "CDPATH") with
    | some searchPath => if isDirect then [] else Frame.candidates searchPath dest
    | none => []
  let (path, prints) := match places.find? frame.isDirectoryAt with
    | some place => (place, prints || place ≠ dest)
    | none => (if isDirect then target else dest, prints)
  if ← enter (isPhysical given) path then
    if prints then Action.printLine (← get).path
    return 0
  else Action.fail (bytes "can't cd to " ++ dest)

def runPwd (args : List Bytes) : Action Nat := do
  let (given, _) ← options "LP" args.tail
  Action.printLine (← if isPhysical given then physicalPath else pure (← get).path)
  return 0

/-! ## Input and output -/

def runEcho (args : List Bytes) : Action Nat := do
  Action.print (echoText args.tail)
  return 0

def runPrintf (args : List Bytes) : Action Nat := do
  match ← operands args.tail with
  | format :: rest => Format.render format rest
  | [] => Action.fail (bytes "usage: printf format [arg ...]")

def runTest (args : List Bytes) : Action Nat := do
  let words ← if args.head? ≠ some (bytes "[") then pure args.tail
    else if args.getLast? = some (bytes "]") && 1 < args.length then pure args.tail.dropLast
    else Action.fail (bytes "missing ]")
  return if ← Condition.evaluate (words.length + 1) words then 0 else 1

/-- A line that has been read: its stretches in reverse, and the one that is not finished. -/
structure ReadLine where
  stretches : List Stretch := []
  current : List Glyph := []

/-- Ends the stretch that is being read. -/
def ReadLine.finish (line : ReadLine) : ReadLine :=
  ⟨⟨line.current.reverse, .atSeparators⟩ :: line.stretches, []⟩

/-- Reads a byte of the standard input. -/
def readByte : Action (Option UInt8) := do
  let frame ← get
  match frame.process.table.at? 0 with
  | none => return none
  | some handle =>
    let (result, machine) := frame.machine.read handle 1
    set { frame with machine }
    return result.toOption.bind List.head?

/-- Reads a line; unless it is raw, a backslash quotes the next byte or joins the next line. The
flag says whether the line has an end. -/
def readLine (raw : Bool) : Nat → Bool → ReadLine → Action (ReadLine × Bool)
  | 0, _, line => return (line, false)
  | fuel + 1, escaped, line => do
    match ← readByte with
    | none => return (line, false)
    | some b =>
      if b = Bytes.nul then readLine raw fuel escaped line
      else if escaped then
        if b = Bytes.newline then readLine raw fuel false line
        else
          let line := line.finish
          readLine raw fuel false { line with
            stretches := ⟨[.byte b true], .whole⟩ :: line.stretches }
      else if b = 0x5c && !raw then readLine raw fuel true line
      else if b = Bytes.newline then return (line, true)
      else readLine raw fuel false { line with current := .byte b false :: line.current }

/-- Reads a line of the standard input into variables. -/
def runRead (args : List Bytes) : Action Nat := do
  let (given, names) ← options "p:r" args.tail
  if names.isEmpty then Action.fail (bytes "arg count")
  let frame ← get
  let size := (frame.process.table.at? 0).map frame.machine.unread
  let raw := given.any (·.1 = 0x72)
  let (line, ended) ← readLine raw (size.getD 0 + 1) false {}
  let stretches := line.finish.stretches.reverse
  let fields := Stretch.fields frame.separators (some names.length) stretches
  (names.zipIdx).forM fun (name, index) =>
    Action.setVariable name (some ((fields[index]?.map Glyph.text).getD []))
  return if ended then 0 else 1

/-! ## Processes -/

/-- Sends a signal to a process; the result says whether there is such a process. -/
def sendSignal (target : Int) (signal : Nat) : Action Bool := do
  let frame ← get
  let own := frame.process.number
  if target = 0 || target.natAbs = own then
    if signal ≠ 0 then Action.receive signal
    return true
  else if frame.process.ancestors.contains target.natAbs then
    let machine := { frame.machine with
      signals := frame.machine.signals ++ [(target.natAbs, signal)] }
    set { frame with machine }
    return true
  else return frame.jobs.any fun (number, _) => number = target.natAbs

def killUsage : Bytes :=
  bytes ("Usage: kill [-s sigspec | -signum | -sigspec] [pid | job]... or\n" ++
    "kill -l [exitstatus]")

/-- Prints the names of signals. -/
def listSignals (args : List Bytes) : Action Nat := do
  match args with
  | [] =>
    Action.printLine (bytes "0")
    (List.range (Signal.count - 1)).forM fun n => Action.printLine (bytes (Signal.name (n + 1)))
    return 0
  | arg :: _ =>
    let n ← Action.number arg
    let n := if 128 < n then n - 128 else n
    if 0 < n && n < Signal.count then
      Action.printLine (bytes (Signal.name n))
      return 0
    else Action.fail (bytes "invalid signal number or exit status: " ++ arg)

def runKill (args : List Bytes) : Action Nat := do
  let args := args.tail
  if args.isEmpty then Action.fail killUsage
  let direct := args.head?.bind fun arg =>
    if arg.head? = some 0x2d then Signal.ofText? false arg.tail else none
  let (given, targets) ← match direct with
    | some _ => pure ([], args.tail)
    | none => options "ls:" args
  let signal ← match direct, given.reverse.lookup 0x73 with
    | some signal, _ => pure signal
    | none, none => pure Signal.terminate
    | none, some name =>
      match Signal.ofText? false name with
      | some signal => pure signal
      | none => Action.fail (bytes "invalid signal number or name: " ++ name)
  let lists : Bool := given.any (·.1 = 0x6c)
  if lists then
    if given.any (·.1 = 0x73) then Action.fail killUsage
    listSignals targets
  else
    if targets.isEmpty then Action.fail killUsage
    let results ← targets.mapM fun target => do
      let pid : Int ← match target with
        | 0x2d :: digits => do pure (-((← Action.number digits : Nat) : Int))
        | digits => do pure ((← Action.number digits : Nat) : Int)
      let sent ← sendSignal pid signal
      if !sent then Action.warn (bytes "No such process\n")
      return sent
    return if results.all id then 0 else 1

/-- Says what is done when a signal comes, or when the script ends. -/
def setTrap (action : Option Bytes) (signal : Nat) : Action Unit :=
  modify fun frame =>
    let others := frame.traps.filter fun (number, _) => number ≠ signal
    let traps := match action with
      | some action => others ++ [(signal, action)]
      | none => others
    let others := frame.process.ignored.filter (· ≠ signal)
    let ignored := if action = some [] || frame.ignoredBefore.contains signal then signal :: others
      else others
    { frame with traps, process := { frame.process with ignored } }

def runTrap (args : List Bytes) : Action Nat := do
  match ← operands args.tail with
  | [] =>
    let frame ← get
    (List.range Signal.count).forM fun signal =>
      match frame.traps.lookup signal with
      | some action =>
        Action.printLine
          (bytes "trap -- " ++ singleQuoted action ++ bytes (" " ++ Signal.name signal))
      | none => pure ()
    return 0
  | first :: rest =>
    let (action, signals) := if rest.isEmpty then (none, [first])
      else (if first = bytes "-" then none else some first, rest)
    let rec setAll : List Bytes → Action Nat
      | [] => return 0
      | name :: names => do
        match Signal.ofText? true name with
        | some signal =>
          setTrap action signal
          setAll names
        | none =>
          let _ ← Action.write 2 (bytes "trap: " ++ name ++ bytes ": bad trap\n")
          return 1
    setAll signals

/-- The status of commands in the background, which have ended already. -/
def runWait (args : List Bytes) : Action Nat := do
  let targets ← operands args.tail
  let jobs := (← get).jobs
  targets.foldlM (fun _ target => do
    if target.head? = some 0x25 then
      let index := (Arithmetic.number? false target.tail).getD 0
      match jobs[index.toNat - 1]? with
      | some (_, status) => return status
      | none => Action.fail (bytes "No such job: " ++ target)
    else
      let number ← Action.number target
      return (jobs.lookup number).getD 127) (if targets.isEmpty then 0 else 127)

def runUmask (args : List Bytes) : Action Nat := do
  let (given, rest) ← options "S" args.tail
  let frame ← get
  let mask := frame.process.mask
  let setMask (mask : Nat) : Action Nat := do
    set { frame with process := { frame.process with mask } }
    return 0
  match rest with
  | [] =>
    if given.isEmpty then
      let digits := bytes (String.ofList (Nat.toDigits 8 mask))
      Action.printLine (List.replicate (4 - digits.length) 0x30 ++ digits)
    else
      let letters (bits : Nat) : Bytes :=
        ([(4, 0x72), (2, 0x77), (1, 0x78)].filter fun (bit, _) => bits &&& bit = 0).map (·.2)
      Action.printLine (bytes "u=" ++ letters (mask / 64) ++
        bytes ",g=" ++ letters (mask / 8 % 8) ++ bytes ",o=" ++ letters (mask % 8))
    return 0
  | text :: _ =>
    if text.head?.any isDigit then
      if text.all isOctal then setMask (Arithmetic.valueIn 8 text % 512)
      else Action.badNumber text
    else
      match ModeChange.parse? text with
      | some changes =>
        let (mode, _) := changes.foldl (fun result change => change.apply 0 result) (511 - mask, 0)
        setMask (511 - mode % 512)
      | none => Action.fail (bytes "Illegal mode: " ++ text)

/-! ## Leaving -/

def runExit (args : List Bytes) : Action Nat := do
  match args.tail.head? with
  | some text =>
    let status ← Action.number text
    modify fun frame => { frame with exitStatus := some status }
  | none => pure ()
  throw .exit

def runReturn (args : List Bytes) : Action Nat := do
  match args.tail.head? with
  | some text =>
    let status ← Action.number text
    modify fun frame => { frame with skip := .function true }
    return status
  | none =>
    modify fun frame => { frame with skip := .function false }
    return (← get).status

/-- Leaves loops, or goes on with the next turn of one. -/
def runBreak (args : List Bytes) : Action Nat := do
  let count ← match args.tail.head? with
    | some text => do
      let n ← Action.number text
      if n = 0 then Action.badNumber text else pure n
    | none => pure 1
  let frame ← get
  let count := min count frame.loops
  if 0 < count then
    set { frame with skip := .loops count (args.head? = some (bytes "continue")) }
  return 0

/-! ## Aliases -/

def printAlias (name value : Bytes) : Action Unit :=
  Action.printLine (name ++ Bytes.equals :: singleQuoted value)

def runAlias (args : List Bytes) : Action Nat := do
  if args.length = 1 then
    let sorted := (← get).aliases.mergeSort fun a b => Frame.bucket a.1 ≤ Frame.bucket b.1
    sorted.forM fun (name, value) => printAlias name value
    return 0
  else
    args.tail.foldlM (fun status arg => do
      let frame ← get
      match cutAt Bytes.equals arg.tail with
      | some (rest, value) =>
        let name := arg.take (rest.length + 1)
        let others := frame.aliases.filter fun (other, _) => other ≠ name
        set { frame with aliases := others ++ [(name, value)] }
        return status
      | none =>
        match frame.aliases.lookup arg with
        | some value =>
          printAlias arg value
          return status
        | none =>
          let _ ← Action.write 2 (bytes "alias: " ++ arg ++ bytes " not found\n")
          return 1) 0

def runUnalias (args : List Bytes) : Action Nat := do
  let (given, names) ← options "a" args.tail
  if !given.isEmpty then
    modify fun frame => { frame with aliases := [] }
    return 0
  else
    names.foldlM (fun status name => do
      let frame ← get
      if (frame.aliases.lookup name).isSome then
        set { frame with aliases := frame.aliases.filter fun (other, _) => other ≠ name }
        return status
      else
        let _ ← Action.write 2 (bytes "unalias: " ++ name ++ bytes " not found\n")
        return 1) 0

/-! ## Names of commands -/

/-- What a builtin command is to the shell. -/
structure Builtin where
  name : String
  isSpecial : Bool := false
  assigns : Bool := false

def builtins : List Builtin :=
  ([".", ":", "break", "continue", "eval", "exec", "exit", "return", "set", "shift", "times",
    "trap", "unset"].map fun name => { name, isSpecial := true }) ++
  (["export", "readonly", "local"].map fun name => { name, isSpecial := true, assigns := true }) ++
  { name := "alias", assigns := true } ::
  (["[", "bg", "cd", "chdir", "command", "echo", "false", "fg", "getopts", "hash", "jobs", "kill",
    "printf", "pwd", "read", "test", "true", "type", "ulimit", "umask", "unalias", "wait"].map
      fun name => { name := name })

def builtin? (name : Bytes) : Option Builtin := builtins.find? (bytes ·.name = name)

/-- What a name means as a command. -/
inductive Meaning where
  | builtin (builtin : Builtin)
  | function (command : Command)
  /-- A program at the first of some places, or at a later one if it is there no more. -/
  | program (paths : List Bytes)
  | unknown (cause : Errno)

/-- What a name means as a builtin command or a function. -/
def Frame.ownMeaning? (frame : Frame) (noFunctions : Bool) (name : Bytes) : Option Meaning :=
  match if noFunctions then none else frame.functions.lookup name with
  | some command => some (.function command)
  | none => (builtin? name).map .builtin

/-- The index of the first place where a program is, or why there is none. At places that do not
depend on the working directory it is not looked for before the known one. -/
def Frame.indexOf (frame : Frame) (known : Option Nat) :
    Errno → Nat → List Bytes → Except Errno Nat
  | cause, _, [] => .error cause
  | cause, index, path :: rest =>
    if path.head? = some Bytes.slash && known.any (index ≤ ·) then
      if known = some index then .ok index else indexOf frame known cause (index + 1) rest
    else
      match frame.walk path with
      | .error refusal =>
        let isMissing : Bool := refusal = .noEntry || refusal = .notDirectory
        indexOf frame known (if isMissing then cause else refusal) (index + 1) rest
      | .ok node =>
        if (frame.machine.tree.node? node).any Frame.isRegular then .ok index
        else indexOf frame known .accessDenied (index + 1) rest

/-- Finds a program where programs are looked for. Where it is will be remembered. -/
def locate (name : Bytes) : Action Meaning := do
  let frame ← get
  let paths := Frame.candidates frame.searchPath name
  let known := frame.location? name
  let found : Except Errno Nat := match known with
    | some ⟨_, index, false⟩ => .ok index
    | _ => frame.indexOf (known.map (·.index)) .noEntry 0 paths
  let frame := frame.forgetProgram name
  match found with
  | .ok index =>
    set { frame with locations := frame.locations ++ [({ name, index } : Location)] }
    return .program (paths.drop index)
  | .error cause =>
    set frame
    return .unknown cause

/-- Where programs are looked for if nobody says otherwise. -/
def defaultPath : Bytes := bytes "/usr/local/sbin:/usr/local/bin:/usr/sbin:/usr/bin:/sbin:/bin"

/-- Finds a program where the standard programs are. -/
def locateStandard (name : Bytes) : Action Meaning := do
  let paths := Frame.candidates defaultPath name
  match (← get).indexOf none .noEntry 0 paths with
  | .ok index => return .program (paths.drop index)
  | .error cause => return .unknown cause

/-- What a name means as a command. -/
def meaningOf (noFunctions isStandard : Bool) (name : Bytes) : Action Meaning := do
  if name.contains Bytes.slash then return .program [name]
  match (← get).ownMeaning? noFunctions name with
  | some meaning => return meaning
  | none => if isStandard then locateStandard name else locate name

/-- What a name means as a command; a path has to lead somewhere. -/
def checkedMeaningOf (isStandard : Bool) (name : Bytes) : Action Meaning := do
  if name.contains Bytes.slash && ((← get).walk name).toOption.isNone then return .unknown .noEntry
  else meaningOf false isStandard name

/-- Says what a name means. -/
def describe (verbose isStandard : Bool) (name : Bytes) : Action Nat := do
  let frame ← get
  let say (text : String) : Action Nat := do
    Action.printLine (if verbose then name ++ bytes text else name)
    return 0
  if keywords.any (bytes · = name) then say " is a shell keyword"
  else
    match frame.aliases.lookup name with
    | some value =>
      if verbose then Action.printLine (name ++ bytes " is an alias for " ++ value)
      else
        Action.print (bytes "alias ")
        printAlias name value
      return 0
    | none =>
      let known := if isStandard then none else frame.location? name
      let meaning ← match known with
        | some location =>
          pure (.program ((Frame.candidates frame.searchPath name).drop location.index))
        | none => checkedMeaningOf isStandard name
      match meaning with
      | .builtin builtin =>
        say (if builtin.isSpecial then " is a special shell builtin" else " is a shell builtin")
      | .function _ => say " is a shell function"
      | .program paths =>
        let path := paths.head?.getD name
        let before := if known.isSome then bytes " is a tracked alias for " else bytes " is "
        Action.printLine (if verbose then name ++ before ++ path else path)
        return 0
      | .unknown _ =>
        if verbose then Action.printLine (name ++ bytes ": not found")
        return 127

def runType (args : List Bytes) : Action Nat := do
  args.tail.foldlM (fun status name => do
    return status ||| (← describe true false name)) 0

/-- Says what a name means, as far as options of `command` ask for it. -/
def runCommand (args : List Bytes) : Action Nat := do
  let (given, rest) ← options "pvV" args.tail
  let verbose := given.any (·.1 = 0x56)
  match rest with
  | name :: _ =>
    if verbose || given.any (·.1 = 0x76) then describe verbose (given.any (·.1 = 0x70)) name
    else return 0
  | [] => return 0

/-- Looks programs up, or shows the ones that have been found. -/
def runHash (args : List Bytes) : Action Nat := do
  let (given, names) ← options "r" args.tail
  if !given.isEmpty then
    modify fun frame => { frame with locations := [] }
    return 0
  if names.isEmpty then
    let frame ← get
    frame.sortedLocations.forM fun location => do
      let paths := Frame.candidates frame.searchPath location.name
      let mark := if location.isStale then bytes "*" else []
      Action.printLine ((paths[location.index]?).getD [] ++ mark)
    return 0
  names.foldlM (fun status name => do
    modify (·.forgetProgram name)
    match ← checkedMeaningOf false name with
    | .unknown cause =>
      Action.warn (name ++ bytes ": " ++ executionText cause)
      return 1
    | _ => return status) 0

/-! ## All of them -/

/-- How a builtin command is carried out, if it runs no others. -/
def builtinAction? (name : String) : Option (List Bytes → Action Nat) :=
  List.lookup name [
    (":", fun _ => return 0), ("true", fun _ => return 0), ("false", fun _ => return 1),
    ("[", runTest), ("test", runTest), ("alias", runAlias), ("unalias", runUnalias),
    ("break", runBreak), ("continue", runBreak), ("cd", runCd), ("chdir", runCd),
    ("command", runCommand), ("echo", runEcho), ("exit", runExit), ("export", runExport),
    ("readonly", runExport), ("getopts", runGetopts), ("hash", runHash), ("kill", runKill),
    ("local", runLocal), ("printf", runPrintf), ("pwd", runPwd), ("read", runRead),
    ("return", runReturn), ("set", runSet), ("shift", runShift), ("trap", runTrap),
    ("type", runType), ("umask", runUmask), ("unset", runUnset), ("wait", runWait)]

end LineShell.Script
