import LineShell.Script.Expansion

/-!
# Redirections

The words of redirections are expanded before the first of them is carried out. What was open
before is put back by whoever redirects, by putting back the descriptor table.
-/

namespace LineShell.Script

/-- A redirection whose words have been expanded. -/
inductive Opening where
  | file (number : Nat) (sign : Sign) (path : Bytes)
  /-- Makes a descriptor the same as another one, or closes it. -/
  | copy (number : Nat) (source : Option Nat)
  | document (number : Nat) (index : Nat)
  deriving DecidableEq, Repr

/-- For what a redirection opens a file. -/
def Sign.access : Sign → Access
  | write => .truncate
  | overwrite => .truncate
  | append => .append
  | readWrite => .readWrite
  | _ => .read

/-- Why a file could not be opened, in the words of the shell. -/
def openingText (cause : Errno) (creates : Bool) : Bytes :=
  if cause = .noEntry || cause = .notDirectory then
    bytes (if creates then "Directory nonexistent" else "No such file")
  else cause.systemText.utf8

/-- Puts a file under a number, or none. -/
def putDescriptor (number : Nat) (handle : Option Handle) : Action Unit :=
  modify fun frame =>
    { frame with process := { frame.process with table := frame.process.table.put number handle } }

/-- Fails because a file could not be opened. -/
def failOpening {α : Type} (path : Bytes) (cause : Errno) (creates : Bool) : Action α :=
  Action.fail (bytes (if creates then "cannot create " else "cannot open ") ++ path ++
    bytes ": " ++ openingText cause creates)

/-- Opens a file; a protected one is not overwritten. -/
def openPath (sign : Sign) (path : Bytes) : Action Handle := do
  let frame ← get
  let isProtected : Bool := sign = .write && frame.hasOption 'C'
  if isProtected && (frame.nodeAt? path).any Frame.isRegular then
    failOpening path .alreadyExists true
  let (result, machine) := frame.process.openFile path sign.access Machine.fileMode frame.machine
  set { frame with machine }
  match result with
  | .ok handle => return handle
  | .error cause => failOpening path cause (sign ≠ .read)

/-- Opens a text for reading. -/
def openText (text : Bytes) : Action Handle := do
  let frame ← get
  let (handle, machine) := frame.machine.openNew (.pipe text) true false
  set { frame with machine }
  return handle

variable (run : Option Command → Action Bytes)

def expandRedirect : Redirect → Action Opening
  | .file number .copy source => do
    match ← expandText run .single source with
    | [0x2d] => return .copy number none
    | [b] =>
      if isDigit b then return .copy number (some (b.toNat - 0x30))
      else Action.fail (bytes "Syntax error: Bad fd number")
    | _ => Action.fail (bytes "Syntax error: Bad fd number")
  | .file number sign target => return .file number sign (← expandText run .single target)
  | .document number index => return .document number index

/-- Carries out a redirection. -/
def carryOut : Opening → Action Unit
  | .file number sign path => do putDescriptor number (some (← openPath sign path))
  | .copy number none => putDescriptor number none
  | .copy number (some source) => do
    if source ≠ number then
      match (← get).process.table.at? source with
      | some handle => putDescriptor number (some handle)
      | none => Action.fail (bytes s!"{source}: Bad file descriptor")
  | .document number index => do
    let document := (← get).documents[index]?.getD []
    let text ← expandText run {} document
    putDescriptor number (some (← openText text))

/-- Carries out redirections in order. -/
def openAll (openings : List Opening) : Action Unit := openings.forM (carryOut run)

/-- Does something that may fail; the result says whether it has not. -/
def succeeds (action : Action Unit) : Action Bool := do
  match ← Action.catchJump action with
  | .ok _ => return true
  | .error .failure => return false
  | .error jump => throw jump

end LineShell.Script
