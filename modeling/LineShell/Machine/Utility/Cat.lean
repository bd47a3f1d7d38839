import LineShell.Machine.Utility.Task

/-!
# Showing files

`runCat` prints files one after the other. The options number the lines, drop repeated empty lines
and make visible what is not: line ends, tabs and other bytes that are no printed characters. What
is known at the end of one file still counts in the next (`Showing`).
-/

namespace LineShell.Utility

/-- What is to be done with the bytes of a file. -/
structure Style where
  numbered : Bool
  /-- Whether empty lines have no number. -/
  nonEmptyOnly : Bool
  squeezed : Bool
  ends : Bool
  tabs : Bool
  visible : Bool
  deriving DecidableEq, Repr

/-- Where the output is: the empty lines just before, unless it is inside a line, the number of the
last line, and whether a carriage return is still to be written. -/
structure Showing where
  emptyLines : Option Nat := some 0
  line : Nat := 0
  heldReturn : Bool := false
  deriving DecidableEq, Repr

def catFlags : List Flag := [
  { key := 0x62, name := "number-nonblank" },
  { key := 0x6e, name := "number" },
  { key := 0x73, name := "squeeze-blank" },
  { key := 0x76, name := "show-nonprinting" },
  { key := 0x45, name := "show-ends" },
  { key := 0x54, name := "show-tabs" },
  { key := 0x41, name := "show-all" },
  { key := 0x65, name := "" },
  { key := 0x74, name := "" },
  { key := 0x75, name := "" }]

namespace Style

def ofOptions (options : Options) : Style where
  numbered := options.has 'n' || options.has 'b'
  nonEmptyOnly := options.has 'b'
  squeezed := options.has 's'
  ends := options.has 'E' || options.has 'A' || options.has 'e'
  tabs := options.has 'T' || options.has 'A' || options.has 't'
  visible := options.has 'v' || options.has 'A' || options.has 'e' || options.has 't'

/-- Whether files are printed as they are. -/
def isPlain (style : Style) : Bool :=
  !(style.numbered || style.squeezed || style.ends || style.tabs || style.visible)

/-- The number in front of a line. -/
def label (number : Nat) : Bytes :=
  let digits := bytes (toString number)
  List.replicate (6 - digits.length) Bytes.space ++ digits ++ [0x09]

/-- A byte of a line, made visible. -/
def visibleByte (b : UInt8) : Bytes :=
  let low (b : UInt8) : Bytes :=
    if b < 0x20 then [0x5e, b + 0x40] else if b = 0x7f then [0x5e, 0x3f] else [b]
  if b < 0x80 then low b else [0x4d, 0x2d] ++ low (b - 0x80)

/-- A byte of a line that is not its end; `next` is the byte after it. -/
def byte (style : Style) (b : UInt8) (next : Option UInt8) : Bytes :=
  if b = 0x09 then if style.tabs then [0x5e, 0x49] else [b]
  else if style.visible then visibleByte b
  else if b = Bytes.carriageReturn && style.ends && next = some Bytes.newline then [0x5e, 0x4d]
  else [b]

/-- What is shown for an end of a line. -/
def lineEnd (style : Style) (showing : Showing) : Bytes × Showing :=
  let empty := match showing.emptyLines with
    | none => 0
    | some n => n + 1
  if 2 ≤ empty && style.squeezed then ([], { showing with emptyLines := some 2 })
  else
    let counted := 0 < empty && style.numbered && !style.nonEmptyOnly
    let line := if counted then showing.line + 1 else showing.line
    let held := if showing.heldReturn then [0x5e, 0x4d] else []
    let ending := if style.ends then bytes "$\n" else bytes "\n"
    ((if counted then label line else []) ++ held ++ ending,
      { emptyLines := some empty, line, heldReturn := false })

/-- What is shown for the bytes of a file. -/
def render (style : Style) (showing : Showing) : Bytes → List Bytes × Showing
  | [] => ([], showing)
  | b :: rest =>
    if b = Bytes.newline then
      let (text, showing) := style.lineEnd showing
      let (texts, showing) := style.render showing rest
      (text :: texts, showing)
    else
      let held := if showing.heldReturn then [Bytes.carriageReturn] else []
      let counted := showing.emptyLines.isSome && style.numbered
      let line := if counted then showing.line + 1 else showing.line
      let begun := held ++ if counted then label line else []
      if b = Bytes.carriageReturn && rest.isEmpty && style.ends && !style.visible then
        ([begun], { emptyLines := none, line, heldReturn := true })
      else
        let text := begun ++ style.byte b rest.head?
        let (texts, showing) := style.render { emptyLines := none, line, heldReturn := false } rest
        (text :: texts, showing)

end Style

/-- Whether an operand is the file that the output goes to, with something in it left to read. -/
def isOwnOutput (process : Process) (source : Handle) : Task Bool := do
  match process.table.at? 1 with
  | some target => return (← getThe Machine).feeds source target
  | none => return false

/-- Prints one operand; the first result says whether that was possible. -/
def showOperand (process : Process) (style : Style) (showing : Showing) (operand : Bytes) :
    Task (Bool × Showing) := do
  match ← process.openOperand operand with
  | .error cause => do
    complainOfFile process operand cause
    return (false, showing)
  | .ok handle =>
    if ← isOwnOutput process handle then
      complain process (mention operand ++ bytes ": input file is output file")
      return (false, showing)
    else
      match (← getThe Machine).readAll handle with
      | (.error cause, _) => do
        complainOfFile process operand cause
        return (false, showing)
      | (.ok content, machine) => do
        set machine
        if style.isPlain then
          print process content
          return (true, showing)
        else
          let (texts, showing) := style.render showing content
          print process texts.flatten
          return (true, showing)

/-- Prints the operands one after the other, or the standard input. -/
def runCat (process : Process) : Task Nat :=
  withOptions process catFlags false 1 fun options => do
  let style := Style.ofOptions options
  if (process.table.at? 1).isNone then
    complainOf process (bytes "standard output") .notOpen
    return 1
  let sources := if options.operands.isEmpty then [bytes "-"] else options.operands
  let mut showing : Showing := {}
  let mut code := 0
  for source in sources do
    let (shown, after) ← showOperand process style showing source
    showing := after
    if !shown then code := 1
  if showing.heldReturn then print process [Bytes.carriageReturn]
  if sources.contains (bytes "-") && (process.table.at? 0).isNone then
    complainOf process (bytes "closing standard input") .notOpen
    return 1
  return code

end LineShell.Utility
