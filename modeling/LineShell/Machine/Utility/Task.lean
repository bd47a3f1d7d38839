import LineShell.Machine.Process
import LineShell.Machine.Utility.Options

/-!
# What the programs of a machine share

A `Task` is what a small program does: it works on the machine and remembers why something that it
printed could not be written. `Utility.withOptions` reads the arguments, and `Utility.forEach` does
something for every operand.
-/

namespace LineShell

/-- Why something printed could not be written, if that happened. -/
structure Printing where
  failure : Option Errno := none

abbrev Task := StateT Printing (StateM Machine)

namespace Utility

/-- Prints on the standard output. -/
def print (process : Process) (data : Bytes) : Task Unit := do
  if !data.isEmpty then
    if let .error cause ← process.write 1 data then
      modifyThe Printing fun printing => ⟨printing.failure <|> some cause⟩

def complain (process : Process) (message : Bytes) : Task Unit := process.complain message

/-- Complains about an error of the system. -/
def complainOf (process : Process) (subject : Bytes) (cause : Errno) : Task Unit :=
  complain process (subject ++ bytes ": " ++ cause.systemText.utf8)

/-- How to find out more about a program. -/
def hint (process : Process) : Bytes :=
  bytes "Try '" ++ process.calledAs ++ bytes " --help' for more information."

/-- Complains about how the program was called. -/
def refuse (process : Process) (message : Bytes) : Task Unit :=
  complain process (message ++ Bytes.newline :: hint process)

/-- Runs a task; output that could not be written makes it a failure. -/
def finish (process : Process) (task : Task Nat) : StateM Machine Nat := do
  let (code, printing) ← task.run {}
  match printing.failure with
  | none => return code
  | some cause =>
    process.complain (bytes "write error: " ++ cause.systemText.utf8)
    return 1

/-- Does something for every operand; the exit code is 1 if that fails for any of them. -/
def forEach (operands : List Bytes) (action : Bytes → Task Bool) : Task Nat :=
  operands.foldlM (fun code operand => do return if ← action operand then code else 1) 0

/-- Does something for every operand, of which there has to be at least one. -/
def forEachGiven (process : Process) (what : String) (operands : List Bytes)
    (action : Bytes → Task Bool) : Task Nat :=
  if operands.isEmpty then do
    refuse process (bytes "missing " ++ bytes what)
    return 1
  else forEach operands action

/-- Whether the environment asks for strictly conforming programs. -/
def isStrict (process : Process) : Bool := (process.value? (bytes "POSIXLY_CORRECT")).isSome

/-- The options that every program has. -/
def commonFlags : List Flag :=
  [{ key := 0x80, name := "help", hasLetter := false },
    { key := 0x81, name := "version", hasLetter := false }]

/-- Whether an option is one of those. -/
def isCommon (option : Given) : Bool := commonFlags.any (·.key = option.1)

/-- Accepts every option. -/
def acceptOption (_ : Given) : Task Bool := return true

/-- Does something for every option up to the first that is not accepted. -/
def acceptAll (accept : Given → Task Bool) : List Given → Task Bool
  | [] => return true
  | option :: rest => do if ← accept option then acceptAll accept rest else return false

/-- Goes on with the options and the operands, unless they cannot be read; then the exit code is
`misuse`, as it is if an option is not accepted. The options that every program has end it. -/
def withOptions (process : Process) (flags : List Flag) (ordered : Bool) (misuse : Nat)
    (action : Options → Task Nat) (accept : Given → Task Bool := acceptOption) :
    Task Nat := do
  let result := Options.read (flags ++ commonFlags) (ordered || isStrict process) process.operands
  let given := match result with
    | .ok options => options.given
    | .error misuse => misuse.before.given
  if !(← acceptAll accept (given.takeWhile (!isCommon ·))) then return misuse
  if given.any isCommon then return 0
  match result with
  | .error fault => do
    refuse process fault.message
    return misuse
  | .ok options => action options

/-! ## Names in messages -/

/-- Whether a byte can be shown as it is. -/
def isPrintable (b : UInt8) : Bool := 0x20 ≤ b && b < 0x7f

/-- Whether a byte in a name means something to a shell. -/
def isSpecial (b : UInt8) : Bool :=
  !isPrintable b || b = 0x60 || (bytes "!\"$&()*;<=>?[\\^|").contains b

/-- Whether a name begins with a byte that means something to a shell there. -/
def beginsSpecial (name : Bytes) : Bool := name.head? = some 0x23 || name.head? = some 0x7e

/-- Whether a name cannot be put between double quotes. -/
def needsSingle (name : Bytes) : Bool :=
  name.any isSpecial || (bytes "#\x7b\x7d~").any (name.drop 1).contains ||
    name.head?.any (bytes "\x7b\x7d").contains

/-- The escape for a byte that cannot be shown. -/
def escaped (b : UInt8) : Bytes :=
  match [(0x07, 'a'), (0x08, 'b'), (0x09, 't'), (0x0a, 'n'), (0x0b, 'v'), (0x0c, 'f'),
      (0x0d, 'r')].lookup b with
  | some letter => [0x5c, letter.toUInt8]
  | none =>
    let digit (n : Nat) : UInt8 := UInt8.ofNat (0x30 + n % 8)
    [0x5c, digit (b.toNat / 64), digit (b.toNat / 8), digit b.toNat]

/-- The inside of a name between single quotes; the flag says that escapes are being written. -/
def quotedInside : Bool → Bytes → Bytes
  | _, [] => []
  | inEscape, b :: rest =>
    if b = 0x27 then bytes "'\\''" ++ quotedInside false rest
    else if isPrintable b then (if inEscape then bytes "''" else []) ++ b :: quotedInside false rest
    else (if inEscape then [] else bytes "'$'") ++ escaped b ++ quotedInside true rest

/-- A name in quotes. A name with a quote that ends with an escape begins as if it were inside of
one. -/
def quoted (name : Bytes) : Bytes :=
  let hasQuote := name.contains 0x27
  let endsEscaped := name.getLast?.any (!isPrintable ·)
  if hasQuote && !needsSingle name then bytes "\"" ++ name ++ bytes "\""
  else bytes "'" ++ quotedInside (hasQuote && endsEscaped) name ++ bytes "'"

/-- Whether a name cannot stand at the head of a message as it is. -/
def needsQuotes (name : Bytes) : Bool :=
  name.isEmpty || beginsSpecial name || [[0x7b], [0x7d]].contains name ||
    name.any fun b => isSpecial b || (bytes " ':").contains b

/-- Text in quotes, with a backslash before what would be mistaken inside of them. -/
def cited (text : Bytes) : Bytes :=
  let byte (b : UInt8) : Bytes :=
    if b = 0x27 || b = 0x5c then [0x5c, b] else if isPrintable b then [b] else escaped b
  bytes "'" ++ (text.map byte).flatten ++ bytes "'"

/-- A name as it stands at the head of a message. -/
def mention (name : Bytes) : Bytes := if needsQuotes name then quoted name else name

/-- Complains about a file. -/
def complainOfFile (process : Process) (name : Bytes) (cause : Errno) : Task Unit :=
  complainOf process (mention name) cause

end Utility

end LineShell
