import LineShell.Machine.Utility.Task

/-!
# Counting

`runWc` counts lines, words and bytes and measures the longest line of its operands. Only bytes
that are printed characters make words and have a width.
-/

namespace LineShell.Utility

/-- The option for a file with the names of the files; it has no letter. -/
def namesKey : UInt8 := 0x82

def wcFlags : List Flag := [
  { key := 0x63, name := "bytes" },
  { key := 0x6d, name := "chars" },
  { key := 0x6c, name := "lines" },
  { key := 0x77, name := "words" },
  { key := namesKey, name := "files0-from", takesValue := true, hasLetter := false },
  { key := 0x4c, name := "max-line-length" }]

/-- The keys of what can be counted, in the order of the columns. -/
def counters : Bytes := bytes "lwmcL"

/-- Whether a byte separates words. -/
def isSpace (b : UInt8) : Bool := b = 0x20 || (0x09 ≤ b && b ≤ 0x0d)

/-- How many words there are. -/
def countWords (content : Bytes) : Nat :=
  let (count, inside) := content.foldl (fun (count, inside) b =>
    if isSpace b then (if inside then count + 1 else count, false)
    else (count, inside || isPrintable b)) (0, false)
  if inside then count + 1 else count

/-- The width of the widest line; a tab leads to the next multiple of eight. -/
def widestLine (content : Bytes) : Nat :=
  let (widest, width) := content.foldl (fun (widest, width) b =>
    if b = 0x0a || b = 0x0d || b = 0x0c then (max widest width, 0)
    else if b = 0x09 then (widest, width + 8 - width % 8)
    else if isPrintable b then (widest, width + 1)
    else (widest, width)) (0, 0)
  max widest width

/-- What is counted under a key. -/
def count (content : Bytes) (key : UInt8) : Nat :=
  if key = 0x6c then content.count Bytes.newline
  else if key = 0x77 then countWords content
  else if key = 0x4c then widestLine content
  else content.length

/-- The total of what is counted under a key. -/
def total (key : UInt8) (numbers : List Nat) : Nat :=
  numbers.foldl (if key = 0x4c then max else (· + ·)) 0

/-- The counts in columns of a width, and the name of what was counted, which is on one line. -/
def countLine (width : Nat) (numbers : List Nat) (name : Bytes) : Bytes :=
  let name := if name.contains Bytes.newline then mention name else name
  let column (n : Nat) : Bytes :=
    let digits := bytes (toString n)
    List.replicate (width - digits.length) Bytes.space ++ digits
  join Bytes.space (numbers.map column ++ if name.isEmpty then [] else [name]) ++ [Bytes.newline]

/-- Something to be counted: its size if it is a file, or that it is something else. -/
def sourceSize (process : Process) (machine : Machine) (source : Bytes) : Option (Option Nat) :=
  match process.openOperand source machine with
  | (.ok handle, machine) =>
    if (machine.file? handle).isSome then some (machine.size? handle) else none
  | (.error _, _) => none

/-- The width of the columns: that of the size of all files, but more if something else is counted
too. -/
def columnWidth (columns : Nat) (sizes : List (Option (Option Nat))) : Nat :=
  if sizes.length = 1 && columns = 1 then 1
  else
    let known := sizes.filterMap id
    let size := (known.filterMap id).foldl (· + ·) 0
    max (toString size).length (if known.all Option.isSome then 1 else 7)

/-- How much of a file is read at once. -/
def pageSize : Nat := 4096

/-- How many bytes of a file are left. They are not read if the size of the file says so, which is
not relied on if it is a whole number of pages; then all but the last bytes are skipped. -/
def countBytes (handle : Handle) : StateM Machine (Except Errno Nat) :=
  fun machine =>
    let counted (skipped : Nat) (machine : Machine) : Except Errno Nat × Machine :=
      let (content, machine) := machine.readAll handle
      (content.map fun content => skipped + content.length, machine)
    match machine.file? handle, machine.size? handle with
    | some file, some size =>
      let last := size - size % (pageSize + 1)
      if size % pageSize ≠ 0 then (.ok (size - file.position), machine)
      else if file.position < last then
        counted (last - file.position) (machine.seek handle (file.position + last))
      else counted 0 machine
    | _, _ => counted 0 machine

/-- The counts of an operand that has been opened. -/
def countOpened (columns : Bytes) (handle : Handle) : StateM Machine (Except Errno (List Nat)) :=
  fun machine =>
    if columns = bytes "c" then
      let (bytes, machine) := countBytes handle machine
      (bytes.map fun n => [n], machine)
    else
      let (content, machine) := machine.readAll handle
      (content.map fun content => columns.map (count content), machine)

/-- Something to be counted. -/
structure Source where
  operand : Bytes
  /-- What is printed behind the counts. -/
  shown : Bytes
  /-- What it is called in messages. -/
  mentioned : Bytes
  /-- What is wrong with it, if it is not to be opened at all. -/
  fault : Option Bytes := none

namespace Source

def input : Source := ⟨bytes "-", [], bytes "standard input", none⟩

def ofOperand (operand : Bytes) : Source where
  operand
  shown := operand
  mentioned := operand
  fault := if operand.isEmpty then some (bytes "invalid zero-length file name") else none

/-- The sources that are named in a file, with a NUL behind each name. -/
def ofNames (file content : Bytes) : List Source :=
  let names := split Bytes.nul content
  let names := if names.getLast? = some [] then names.dropLast else names
  names.zipIdx.map fun (name, index) =>
    let isOwnInput : Bool := file = bytes "-" && name = bytes "-"
    { ofOperand name with
      fault :=
        if isOwnInput then some (bytes
          "when reading file names from stdin, no file name of '-' allowed")
        else if name.isEmpty then some (mention file ++
          bytes s!":{index + 1}: invalid zero-length file name")
        else none }

end Source

/-- The counts of a source, if it can be opened. What cannot be read counts as empty, but is a
failure; so the second result says whether everything was read. -/
def countSource (process : Process) (columns : Bytes) (source : Source) :
    Task (Option (List Nat) × Bool) := do
  if let some fault := source.fault then
    complain process fault
    return (none, false)
  match ← process.openOperand source.operand with
  | .error cause => do
    complainOfFile process source.mentioned cause
    return (if source.operand = bytes "-" then some (columns.map fun _ => 0) else none, false)
  | .ok handle =>
    match ← countOpened columns handle with
    | .ok numbers => return (some numbers, true)
    | .error cause => do
      complainOfFile process source.mentioned cause
      return (some (columns.map fun _ => 0), false)

/-- What options and operands ask to be counted; it is an error if they cannot be read or do not
agree. -/
def readSources (process : Process) (options : Options) : Task (Except Unit (List Source)) := do
  match options.lastValue? namesKey, options.operands with
  | none, [] => return .ok [Source.input]
  | none, operands => return .ok (operands.map Source.ofOperand)
  | some _, operand :: _ => do
    refuse process (bytes "extra operand " ++ cited operand ++
      bytes "\nfile operands cannot be combined with --files0-from")
    return .error ()
  | some file, [] =>
    match ← process.readOperand file with
    | .ok content => return .ok (Source.ofNames file content)
    | .error cause => do
      complain process (bytes "cannot open " ++ quoted file ++ bytes " for reading: " ++
        cause.systemText.utf8)
      return .error ()

/-- Counts the sources, and gives a total if there are several. -/
def runWc (process : Process) : Task Nat :=
  withOptions process wcFlags false 1 fun options => do
  let asked := counters.filter options.keys.contains
  let columns := if asked.isEmpty then bytes "lwc" else asked
  match ← readSources process options with
  | .error () => return 1
  | .ok sources =>
    let machine ← getThe Machine
    let size (operand : Bytes) : Option (Option Nat) := sourceSize process machine operand
    let isListed : Bool := match options.lastValue? namesKey with
      | some file => (size file).join.isSome
      | none => true
    let width := if isListed then
        columnWidth columns.length (sources.map fun source => size source.operand)
      else 1
    let mut code := 0
    let mut sums := columns.map fun _ => 0
    for source in sources do
      let (numbers?, complete) ← countSource process columns source
      if !complete then code := 1
      if let some numbers := numbers? then
        print process (countLine width numbers source.shown)
        sums := (columns.zip (sums.zip numbers)).map fun (key, a, b) => total key [a, b]
    if 1 < sources.length then print process (countLine width sums (bytes "total"))
    let readsInput := sources.any fun source => source.operand = bytes "-" && source.fault.isNone
    if readsInput && (process.table.at? 0).isNone then
      complainOf process (bytes "-") .notOpen
      return 1
    return code

end LineShell.Utility
