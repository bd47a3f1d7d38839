import LineShell.Bytes
import LineShell.Pieces

/-!
# Options of programs

The arguments of a program are options and operands. An option is a letter after a dash, alone or
with others behind the same dash, or a name after two dashes, of which the beginning is enough if
no other option begins with it. `Options.read` tells them apart; two dashes alone end the options.
-/

namespace LineShell

/-- An option that a program knows. -/
structure Flag where
  /-- By which the program knows it: its letter, if it has one. -/
  key : UInt8
  /-- The name, if it has one. -/
  name : String
  takesValue : Bool := false
  /-- Whether it can have a value behind its name. -/
  allowsValue : Bool := false
  hasLetter : Bool := true
  deriving DecidableEq, Repr

/-- The key of an option and its value, if it has one. -/
abbrev Given := UInt8 × Option Bytes

/-- Options with their values, and operands. -/
structure Options where
  given : List Given := []
  operands : List Bytes := []
  deriving DecidableEq, Repr

/-- An option that cannot be read, and those before it. -/
structure Misuse where
  before : Options
  message : Bytes

namespace Options

def dash : UInt8 := 0x2d

def keys (options : Options) : Bytes := options.given.map (·.1)

def has (options : Options) (key : Char) : Bool := options.keys.contains key.toUInt8

/-- The value of the last of the options with a key. -/
def lastValue? (options : Options) (key : UInt8) : Option Bytes :=
  (options.given.reverse.lookup key).join

def value? (options : Options) (key : Char) : Option Bytes := options.lastValue? key.toUInt8

def give (options : Options) (key : UInt8) (value : Option Bytes) : Options :=
  { options with given := options.given ++ [(key, value)] }

/-- The flag with a letter. -/
def flag? (flags : List Flag) (letter : UInt8) : Option Flag :=
  flags.find? fun flag => flag.hasLetter && flag.key = letter

/-- Reads the letters behind a dash. The second result is the rest of the arguments. -/
def readLetters (flags : List Flag) (options : Options) :
    Bytes → List Bytes → Except Misuse (Options × List Bytes)
  | [], rest => .ok (options, rest)
  | letter :: letters, rest =>
    match flag? flags letter with
    | none => .error ⟨options, bytes "invalid option -- '" ++ letter :: bytes "'"⟩
    | some flag =>
      if !flag.takesValue then readLetters flags (options.give letter none) letters rest
      else if !letters.isEmpty then .ok (options.give letter letters, rest)
      else
        match rest with
        | value :: rest => .ok (options.give letter value, rest)
        | [] => .error ⟨options, bytes "option requires an argument -- '" ++ letter :: bytes "'"⟩

/-- The flag that a name or the beginning of one means; `text` is what it was found in. -/
def named (flags : List Flag) (name text : Bytes) : Except Bytes Flag :=
  let matching := flags.filter fun flag =>
    !flag.name.isEmpty && name.isPrefixOf (bytes flag.name)
  match matching.find? (bytes ·.name = name), matching with
  | some flag, _ => .ok flag
  | none, [] => .error (bytes "unrecognized option '--" ++ text ++ bytes "'")
  | none, flag :: others =>
    if others.all (·.key = flag.key) then .ok flag
    else
      .error (bytes "option '--" ++ text ++ bytes "' is ambiguous; possibilities:" ++
        matching.flatMap fun flag => bytes " '--" ++ bytes flag.name ++ bytes "'")

/-- Reads what is behind two dashes. -/
def readName (flags : List Flag) (options : Options) (text : Bytes) (rest : List Bytes) :
    Except Misuse (Options × List Bytes) := do
  let (name, value?) := match cutAt Bytes.equals text with
    | some (name, value) => (name, some value)
    | none => (text, none)
  let flag ← (named flags name text).mapError (Misuse.mk options)
  let complaint (message : String) : Misuse :=
    ⟨options, bytes "option '--" ++ bytes flag.name ++ bytes ("' " ++ message)⟩
  match flag.takesValue, value?, rest with
  | true, some value, rest => return (options.give flag.key value, rest)
  | true, none, value :: rest => return (options.give flag.key value, rest)
  | true, none, [] => .error (complaint "requires an argument")
  | false, none, rest => return (options.give flag.key none, rest)
  | false, some value, rest =>
    if flag.allowsValue then return (options.give flag.key value, rest)
    else .error (complaint "doesn't allow an argument")

/-- Reads arguments; at most `fuel` of them. If the order counts, the first operand ends the
options. -/
def readFrom (flags : List Flag) (ordered : Bool) : Nat → Options → List Bytes →
    Except Misuse Options
  | 0, options, _ => .ok options
  | _, options, [] => .ok options
  | fuel + 1, options, arg :: rest =>
    match arg with
    | [0x2d, 0x2d] => .ok { options with operands := options.operands ++ rest }
    | 0x2d :: 0x2d :: name => do
      let (options, rest) ← readName flags options name rest
      readFrom flags ordered fuel options rest
    | 0x2d :: b :: letters => do
      let (options, rest) ← readLetters flags options (b :: letters) rest
      readFrom flags ordered fuel options rest
    | operand =>
      if ordered then .ok { options with operands := operand :: rest }
      else
        readFrom flags ordered fuel { options with operands := options.operands ++ [operand] } rest

/-- Tells options and operands apart; an argument that is neither is an error. -/
def read (flags : List Flag) (ordered : Bool) (args : List Bytes) : Except Misuse Options :=
  readFrom flags ordered args.length {} args

end Options

end LineShell
