import LineShell.Machine.Utility.Mode

/-!
# Making and removing directories

`runMkdir` makes the directories that are named and `runRmdir` removes them if they are empty; both
can do the same for the directories above.
-/

namespace LineShell

/-- A new directory inside another one. It belongs to the same group as that if that says so. -/
def Tree.newDirectory (tree : Tree) (above mode : Nat) : Node :=
  let inherited := match tree.node? above with
    | some (.directory _ _ mode) => mode &&& 0o2000
    | _ => 0
  .directory [] above (mode ||| inherited)

namespace Utility

/-- Changes the mode of a directory. -/
def setMode (tree : Tree) (dir : Nat) (change : Nat → Nat) : Tree :=
  match tree.node? dir with
  | some (.directory entries parent mode) =>
    tree.setNode dir (.directory entries parent (change mode))
  | _ => tree

/-- Makes a directory, and says which node it is. -/
def makeDirectory (process : Process) (mode : Nat) (path : Bytes) : Task (Except Errno Nat) := do
  let machine ← getThe Machine
  match machine.tree.slot (process.standpoint machine) path with
  | .error cause => return .error cause
  | .ok (above, name) =>
    match machine.tree.step above name with
    | .ok _ => return .error .alreadyExists
    | .error cause =>
      if cause = .noEntry && machine.tree.isAlive above then
        let (node, tree) := machine.tree.add above name (machine.tree.newDirectory above mode)
        set { machine with tree }
        return .ok node
      else return .error cause

/-- The paths of the directories above the last one on the way to a path. -/
def pathsAbove (path : Bytes) : List Bytes :=
  let names := split Bytes.slash path
  let last := (names.reverse.dropWhile List.isEmpty).length - 1
  ((List.range last).filter fun n => !(names[n]?.getD []).isEmpty).map fun n =>
    join Bytes.slash (names.take (n + 1))

/-- How a path leads from one directory to the next, up to the last. -/
def stepsOf (path : Bytes) : List Bytes :=
  let above := pathsAbove path
  let rest (before : Bytes) (path : Bytes) : Bytes :=
    (path.drop before.length).dropWhile (· = Bytes.slash)
  let after := match above.getLast? with
    | some before => rest before path
    | none => path
  above.take 1 ++ (above.zip above.tail).map (fun (before, path) => rest before path) ++ [after]

/-- The options that have no letter. -/
def contextKey : UInt8 := 0x82
def ignoreKey : UInt8 := 0x83

def mkdirFlags : List Flag := [
  { key := contextKey, name := "context", allowsValue := true, hasLetter := false },
  { key := 0x6d, name := "mode", takesValue := true },
  { key := 0x70, name := "parents" },
  { key := 0x76, name := "verbose" },
  { key := 0x5a, name := "" }]

/-- Says that a directory has been made. -/
def announce (process : Process) (path : Bytes) : Task Unit :=
  print process (process.calledAs ++ bytes ": created directory " ++ quoted path ++ bytes "\n")

/-- Makes the directories above one as far as they are missing, step by step. The result is the last
of them, or the first path that leads to no directory, and why it does not. -/
def makeParents (process : Process) (isVerbose : Bool) :
    List (Bytes × Bytes) → Task (Except (Bytes × Errno) Process)
  | [] => return .ok process
  | (path, name) :: rest => do
    let mode := Machine.masked Machine.directoryMode (process.mask - (process.mask &&& 0o300))
    let made ← makeDirectory process mode name
    if made.toOption.isSome && isVerbose then announce process path
    let machine ← getThe Machine
    match machine.tree.enter (process.standpoint machine) name, made with
    | .ok dir, _ => makeParents { process with dir } isVerbose rest
    | .error .noEntry, .error cause => return .error (path, cause)
    | .error cause, _ => return .error (path, cause)

/-- Makes a directory and sets its mode as asked for. -/
def makeWithMode (process : Process) (changes : Option (List ModeChange)) (path : Bytes) :
    Task (Except Errno Unit) := do
  let mode := Machine.masked Machine.directoryMode process.mask
  match ← makeDirectory process mode path with
  | .error cause => return .error cause
  | .ok node =>
    if let some changes := changes then
      let (mode, changed) := ModeChange.applyAll changes process.mask
      modifyThe Machine fun machine =>
        { machine with tree := setMode machine.tree node (ModeChange.settle mode changed) }
    return .ok ()

/-- Makes the directory that is named, with all above it if they are asked for. -/
def makeNamed (process : Process) (options : Options) (changes : Option (List ModeChange))
    (operand : Bytes) : Task Bool := do
  let withParents := options.has 'p'
  let isVerbose := options.has 'v'
  let steps := if withParents then stepsOf operand else [operand]
  let (name, before) := (steps.getLast?.getD operand, steps.dropLast)
  match ← makeParents process isVerbose ((pathsAbove operand).zip before) with
  | .error (path, cause) => do
    complainOf process (bytes "cannot create directory " ++ cited path) cause
    return false
  | .ok inside =>
    match ← makeWithMode inside changes name with
    | .ok _ => do
      if isVerbose then announce process operand
      return true
    | .error cause => do
      let machine ← getThe Machine
      let there := if withParents then inside.walk machine name else .error cause
      match there with
      | .ok node => do
        if machine.tree.isDirectory node then return true
        complainOf process (bytes "cannot create directory " ++ cited operand) cause
      | .error .tooManyLinks =>
        complainOf process (bytes "cannot stat " ++ cited operand) .tooManyLinks
      | .error _ => complainOf process (bytes "cannot create directory " ++ cited operand) cause
      return false

/-- Makes the directories named, with all above them if the option p is given. -/
def runMkdir (process : Process) : Task Nat :=
  let action (options : Options) : Task Nat := do
    let modeText := options.value? 'm'
    if options.operands.isEmpty then
      refuse process (bytes "missing operand")
      return 1
    let changes? := match modeText with
      | none => some none
      | some text => (ModeChange.parse? text).map some
    match changes? with
    | none => do
      complain process (bytes "invalid mode " ++ cited (modeText.getD []))
      return 1
    | some changes => forEach options.operands (makeNamed process options changes)
  withOptions process mkdirFlags false 1 action fun (key, context) => do
    if key = contextKey && context.isSome then
      complain process (bytes
        "warning: ignoring --context; it requires an SELinux/SMACK-enabled kernel")
    return true

/-- Removes an empty directory, which has to be named as itself. -/
def removeDirectory (process : Process) (path : Bytes) : Task (Except Errno Unit) := do
  let machine ← getThe Machine
  match machine.tree.slot (process.standpoint machine) path with
  | .error cause => return .error cause
  | .ok (above, name) =>
    if name.isEmpty then return .error .busy
    else if !machine.tree.isDirectory above then return .error .notDirectory
    else if name = bytes "." then return .error .invalid
    else if name = bytes ".." then return .error .notEmpty
    else
      match machine.tree.step above name with
      | .error cause => return .error cause
      | .ok node =>
        if !machine.tree.isDirectory node then return .error .notDirectory
        else if !(machine.tree.entries node).isEmpty then return .error .notEmpty
        else
          set { machine with tree := machine.tree.remove above name }
          return .ok ()

def rmdirFlags : List Flag := [
  { key := ignoreKey, name := "ignore-fail-on-non-empty", hasLetter := false },
  { key := 0x70, name := "path" },
  { key := 0x70, name := "parents" },
  { key := 0x76, name := "verbose" }]

/-- Whether a path leads to a directory only through a link at its end. -/
def isLinkWithSlash (process : Process) (machine : Machine) (path : Bytes) : Bool :=
  let here := process.standpoint machine
  let stripped := (path.reverse.dropWhile (· = Bytes.slash)).reverse
  let isLink := match (machine.tree.walkToLink here stripped).toOption.bind machine.tree.node? with
    | some (.link _) => true
    | _ => false
  path.getLast? = some Bytes.slash && isLink &&
    match machine.tree.walk here path with
    | .ok node => machine.tree.isDirectory node
    | .error cause => cause ≠ .notDirectory

/-- Says why a directory could not be removed. -/
def complainOfRemoval (process : Process) (what : String) (path : Bytes) (cause : Errno) :
    Task Unit := do
  let machine ← getThe Machine
  if cause = .notDirectory && isLinkWithSlash process machine path then
    complain process (bytes "failed to remove " ++ quoted path ++
      bytes ": Symbolic link not followed")
  else
    let what := if cause = .notDirectory then "" else what
    complainOf process (bytes ("failed to remove " ++ what) ++ quoted path) cause

/-- Removes one directory as the options say, unless that fails; then the result is whether the
failure is to be ignored. -/
def removeOne (process : Process) (options : Options) (what : String) (path : Bytes) :
    Task (Option Bool) := do
  if options.has 'v' then
    print process (process.calledAs ++ bytes ": removing directory, " ++ quoted path ++ bytes "\n")
  match ← removeDirectory process path with
  | .ok () => return none
  | .error cause => do
    if options.keys.contains ignoreKey && cause = .notEmpty then return some true
    complainOfRemoval process what path cause
    return some false

/-- Removes the directories at the paths, up to the first that cannot be removed. -/
def removeAll (process : Process) (options : Options) : List Bytes → Task Bool
  | [] => return true
  | path :: rest => do
    match ← removeOne process options "directory " path with
    | none => removeAll process options rest
    | some result => return result

/-- Removes the directories named, and those above them if the option p is given. -/
def runRmdir (process : Process) : Task Nat :=
  withOptions process rmdirFlags false 1 fun options =>
  forEachGiven process "operand" options.operands fun operand => do
    match ← removeOne process options "" operand with
    | some result => return result
    | none =>
      if options.has 'p' then removeAll process options (pathsAbove operand).reverse
      else return true

end Utility

end LineShell
