import LineShell.Machine.Utility.Task
import LineShell.Store.Entries

/-!
# What a program finds around it

`runPrintenv` prints its environment and `runPwd` the path of its working directory.
-/

namespace LineShell.Utility

/-- Two of these can be read, but are not accepted. -/
def printenvFlags : List Flag := [
  { key := 0x30, name := "null" },
  { key := 0x69, name := "" },
  { key := 0x75, name := "", takesValue := true }]

/-- Prints the values of the variables named, or all of the environment. Every entry for a name
counts, and a name with an equals sign is never found. -/
def runPrintenv (process : Process) : Task Nat :=
  let action (options : Options) : Task Nat := do
    let lineEnd := if options.has '0' then Bytes.nul else Bytes.newline
    if options.operands.isEmpty then
      print process (process.environment.flatMap (· ++ [lineEnd]))
      return 0
    else
      forEach options.operands fun name => do
        let values := process.environment.filterMap (Entries.value? name)
        if name.contains Bytes.equals || values.isEmpty then return false
        print process (values.flatMap (· ++ [lineEnd]))
        return true
  withOptions process printenvFlags true 2 action fun (key, _) => do
    if key = 0x30 then return true
    let _ ← process.write 2 (hint process ++ [Bytes.newline])
    return false

def pwdFlags : List Flag :=
  [{ key := 0x4c, name := "logical" }, { key := 0x50, name := "physical" }]

/-- Whether a path names every directory by itself: it begins at the root, and none of its names
stands for the directory there or for the one above. -/
def isProperPath (path : Bytes) : Bool :=
  path.head? = some Bytes.slash &&
    (split Bytes.slash path).all fun name => name ≠ bytes "." && name ≠ bytes ".."

/-- The path of the working directory as the environment has it, if it is right. -/
def logicalPath? (process : Process) (machine : Machine) : Option Bytes := do
  let path ← process.value? (bytes "PWD")
  if isProperPath path && (process.walk machine path).toOption = some process.dir then some path
  else none

/-- Prints the path of the working directory. -/
def runPwd (process : Process) : Task Nat :=
  withOptions process pwdFlags false 1 fun options => do
  if !options.operands.isEmpty then complain process (bytes "ignoring non-option arguments")
  let machine ← getThe Machine
  let logical : Bool := match options.keys.getLast? with
    | some key => key = 0x4c
    | none => isStrict process
  match if logical then logicalPath? process machine else none with
  | some path => do
    print process (path ++ [Bytes.newline])
    return 0
  | none =>
    match machine.tree.fullPathOf process.dir with
    | .ok path => do
      print process (path ++ [Bytes.newline])
      return 0
    | .error _ => do
      complain process (bytes "couldn't find directory entry in '..' with matching i-node")
      return 1

end LineShell.Utility
