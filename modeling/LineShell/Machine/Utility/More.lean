import LineShell.Machine.Utility.Task

/-!
# Showing files page by page

`runMore` shows its standard input and then its operands. Nothing waits for a reader here, so there
are no pages, and the options change nothing.
-/

namespace LineShell.Utility

def moreFlags : List Flag := [
  { key := 0x64, name := "silent" },
  { key := 0x66, name := "logical" },
  { key := 0x6c, name := "no-pause" },
  { key := 0x63, name := "print-over" },
  { key := 0x70, name := "clean-print" },
  { key := 0x65, name := "exit-on-eof" },
  { key := 0x73, name := "squeeze" },
  { key := 0x75, name := "plain" },
  { key := 0x6e, name := "lines", takesValue := true },
  { key := 0x56, name := "version" }]

/-- Whether an argument only says where to begin, or how long a page is. -/
def isPageArgument (arg : Bytes) : Bool :=
  arg.head? = some 0x2b ||
    (arg.head? = some 0x2d && 2 ≤ arg.length && arg.tail.all fun b => 0x30 ≤ b && b ≤ 0x39)

/-- The lines above a file. -/
def banner (name : Bytes) : Bytes :=
  let line := List.replicate 14 0x3a ++ [Bytes.newline]
  line ++ name ++ [Bytes.newline] ++ line

/-- Shows a file. -/
def showFile (process : Process) (name : Bytes) : Task Unit := do
  match ← Process.openOperand process (if name = bytes "-" then bytes "./-" else name) with
  | .error cause => complainOf process (bytes "cannot open " ++ name) cause
  | .ok handle =>
    match (← getThe Machine).readAll handle with
    | (.error _, _) => print process (bytes "\n*** " ++ name ++ bytes ": directory ***\n\n")
    | (.ok content, machine) => do
      set machine
      print process (banner name ++ content)

/-- Shows the standard input and the operands. -/
def runMore (process : Process) : Task Nat :=
  let args := process.args.filter (!isPageArgument ·)
  withOptions { process with args } moreFlags false 1 fun options => do
  if options.has 'V' then return 0
  if let .ok content ← process.readOperand (bytes "-") then print process content
  options.operands.forM (showFile process)
  return 0

end LineShell.Utility
