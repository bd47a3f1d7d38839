import LineShell.Bytes
import LineShell.Machine.Utility.Echo

/-!
# Modes of files

A mode is given as an octal number or as changes to a mode, such as `u=rwx,go-w`.
`ModeChange.parse?` reads it, and `ModeChange.applyAll` makes the changes.
-/

namespace LineShell

/-- Which bits of a mode a change is about. -/
inductive ModeBits where
  | fixed
  /-- Those that the mode has for one kind of user, for all of them. -/
  | copied
  /-- The given ones, and those for executing if somebody may execute. -/
  | executable
  deriving DecidableEq, Repr

structure ModeChange where
  /-- One of `=`, `+` and `-`. -/
  sign : UInt8
  bits : ModeBits
  /-- The bits of the users that the change is for; none of them are all but the mask. -/
  users : Nat
  value : Nat
  /-- The bits that a directory does not keep. -/
  mentioned : Nat
  deriving DecidableEq, Repr

namespace ModeChange

def allBits : Nat := 0o7777
def permissions : Nat := 0o777
/-- The bits that a directory keeps unless they are mentioned. -/
def keptByDirectories : Nat := 0o6000

/-- The bits of a number that are not in another one. -/
def without (bits others : Nat) : Nat := bits - (bits &&& others)

def userBits : List (UInt8 × Nat) :=
  [(0x75, 0o4700), (0x67, 0o2070), (0x6f, 0o1007), (0x61, 0o7777)]

def copiedBits : List (UInt8 × Nat) := [(0x75, 0o700), (0x67, 0o070), (0x6f, 0o007)]

def permissionBits : List (UInt8 × Nat) :=
  [(0x72, 0o444), (0x77, 0o222), (0x78, 0o111), (0x58, 0), (0x73, 0o6000), (0x74, 0o1000)]

def isSign (b : UInt8) : Bool := (bytes "=+-").contains b

def orAll (letters : Bytes) (table : List (UInt8 × Nat)) : Nat :=
  letters.foldl (fun bits b => bits ||| (table.lookup b).getD 0) 0

/-- A change without its sign, for some users. -/
def ofText? (users : Nat) (sign : UInt8) (text : Bytes) : Option ModeChange :=
  let mentioned (value : Nat) : Nat := if users = 0 then value else users &&& value
  match text with
  | [b] =>
    match copiedBits.lookup b with
    | some value => some ⟨sign, .copied, users, value, mentioned value⟩
    | none => ofLetters? mentioned
  | _ => ofLetters? mentioned
where
  ofLetters? (mentioned : Nat → Nat) : Option ModeChange :=
    if !text.isEmpty && text.all (Utility.digitValue · < 8) then
      let value := Utility.ofDigits 8 text
      if users = 0 && value ≤ allBits then some ⟨sign, .fixed, allBits, value, allBits⟩ else none
    else if text.all fun b => (permissionBits.lookup b).isSome then
      let value := orAll text permissionBits
      let bits := if text.contains 0x58 then .executable else .fixed
      some ⟨sign, bits, users, value, mentioned value⟩
    else none

/-- The changes of one clause after its users; at most `fuel` of them. A number ends the clause. -/
def ofSigned? (users : Nat) : Nat → Bytes → Option (List ModeChange)
  | 0, text => if text.isEmpty then some [] else none
  | _, [] => some []
  | fuel + 1, sign :: text => do
    let own := text.takeWhile (!isSign ·)
    let after := text.drop own.length
    if own.head?.any (Utility.digitValue · < 8) && !after.isEmpty then none
    else
      let change ← ofText? users sign own
      let rest ← ofSigned? users fuel after
      return change :: rest

/-- The changes of one clause. -/
def ofClause? (text : Bytes) : Option (List ModeChange) :=
  let who := text.takeWhile (!isSign ·)
  let signed := text.drop who.length
  if signed.isEmpty || !(who.all fun b => (userBits.lookup b).isSome) then none
  else ofSigned? (orAll who userBits) signed.length signed

/-- Reads a mode. -/
def parse? (text : Bytes) : Option (List ModeChange) :=
  if text.head?.any (Utility.digitValue · < 8) then
    let value := Utility.ofDigits 8 text
    if text.all (Utility.digitValue · < 8) && value ≤ allBits then
      let mentioned :=
        if text.length < 5 then (value &&& keptByDirectories) ||| 0o1777 else allBits
      some [⟨0x3d, .fixed, allBits, value, mentioned⟩]
    else none
  else ((split 0x2c text).mapM ofClause?).map List.flatten

/-- The bits that a change is about, for a directory with a mode. -/
def valueFor (change : ModeChange) (mode : Nat) : Nat :=
  match change.bits with
  | .fixed => change.value
  | .executable => change.value ||| 0o111
  | .copied =>
    let own := change.value &&& mode
    let spread (bits : Nat) : Nat := if own &&& bits = 0 then 0 else bits
    spread 0o444 ||| spread 0o222 ||| spread 0o111

/-- The mode of a directory after a change, and all the bits that have been changed. -/
def apply (change : ModeChange) (mask : Nat) : Nat × Nat → Nat × Nat
  | (mode, changed) =>
    let omitted := without keptByDirectories change.mentioned
    let limit := if change.users = 0 then without allBits mask else change.users
    let value := without (change.valueFor mode &&& limit) omitted
    if change.sign = 0x3d then
      let preserved :=
        (if change.users = 0 then 0 else without allBits change.users) ||| omitted
      ((mode &&& preserved) ||| value, changed ||| without allBits preserved)
    else if change.sign = 0x2b then (mode ||| value, changed ||| value)
    else (without mode value, changed ||| value)

/-- The mode of a new directory after all changes, and all the bits that have been changed. -/
def applyAll (changes : List ModeChange) (mask : Nat) : Nat × Nat :=
  changes.foldl (fun result change => change.apply mask result) (permissions, 0)

/-- The mode that a new directory ends up with, which has special bits of its own. While it does not
have the special bits that it is given yet, only its owner may write in it; if the bits that have
been changed are right then, it stays like that. -/
def settle (mode changed own : Nat) : Nat :=
  let isSpecial := changed &&& keptByDirectories ≠ 0 || mode &&& 0o1000 ≠ 0
  let first := if isSpecial then without mode 0o022 else mode
  let made := (first &&& 0o1777) ||| (own &&& keptByDirectories)
  if made &&& changed = mode &&& changed then made else mode ||| without made changed

end ModeChange

end LineShell
