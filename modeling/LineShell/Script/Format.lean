import LineShell.Script.Decimal
import LineShell.Script.Frame

/-!
# Formats

The texts that `echo` and `printf` print. `unescape` puts bytes in place of their escapes, and
`Format.render` fills arguments into a format, as often as there are arguments left.
-/

namespace LineShell.Script

/-! ## Escapes -/

def isOctal (b : UInt8) : Bool := 0x30 ≤ b && b ≤ 0x37

/-- The byte that a letter after a backslash stands for. -/
def escapedBytes : List (UInt8 × UInt8) := [
  (0x5c, 0x5c), (0x61, 0x07), (0x62, 0x08), (0x66, 0x0c), (0x6e, 0x0a), (0x72, 0x0d),
  (0x74, 0x09), (0x76, 0x0b)]

/-- The byte that what follows a backslash stands for, and the rest. What stands for nothing else
leaves the backslash. -/
def escapeAt (text : Bytes) : UInt8 × Bytes :=
  match text with
  | [] => (0x5c, [])
  | b :: rest =>
    if isOctal b then
      let digits := (text.take 3).takeWhile isOctal
      (UInt8.ofNat (Arithmetic.valueIn 8 digits), text.drop digits.length)
    else
      match escapedBytes.lookup b with
      | some byte => (byte, rest)
      | none => (0x5c, text)

/-- Puts bytes in place of escapes; the flag says whether one of them ends all output. At most
`fuel` bytes are looked at. -/
def unescapeFrom : Nat → Bytes → Bytes × Bool
  | 0, _ => ([], false)
  | _, [] => ([], false)
  | fuel + 1, b :: rest =>
    let (byte?, rest) : Option UInt8 × Bytes :=
      if b ≠ 0x5c then (some b, rest)
      else if rest.head? = some 0x63 then (none, [])
      else
        let digits := if rest.head? = some 0x30 && rest.tail.head?.any isOctal then rest.tail
          else rest
        let (byte, rest) := escapeAt digits
        (some byte, rest)
    match byte? with
    | none => ([], true)
    | some byte =>
      let (text, ended) := unescapeFrom fuel rest
      (byte :: text, ended)

def unescape (text : Bytes) : Bytes × Bool := unescapeFrom text.length text

/-- What `echo` prints: its arguments with a blank between them and a newline at the end. -/
def echoText (args : List Bytes) : Bytes :=
  let (args, lineEnd) : List Bytes × Bytes :=
    if args.head? = some (bytes "-n") then (args.tail, []) else (args, [Bytes.newline])
  let rec all : List Bytes → Bytes
    | [] => lineEnd
    | arg :: rest =>
      match unescape arg with
      | (text, true) => text
      | (text, false) => text ++ (if rest.isEmpty then lineEnd else Bytes.space :: all rest)
  all args

/-! ## Formats -/

/-- How an argument is shown. -/
structure Conversion where
  leftAligned : Bool := false
  signed : Bool := false
  spaced : Bool := false
  alternate : Bool := false
  zeros : Bool := false
  width : Nat := 0
  precision : Option Nat := none
  deriving DecidableEq, Repr

namespace Conversion

/-- A text with a sign or a mark before it, filled up to the width. -/
def fill (conversion : Conversion) (mark text : Bytes) (withZeros : Bool) : Bytes :=
  let missing := conversion.width - (mark.length + text.length)
  if conversion.leftAligned then mark ++ text ++ List.replicate missing Bytes.space
  else if withZeros then mark ++ List.replicate missing 0x30 ++ text
  else List.replicate missing Bytes.space ++ mark ++ text

def text (conversion : Conversion) (text : Bytes) : Bytes :=
  conversion.fill [] (match conversion.precision with
    | some count => text.take count
    | none => text) false

/-- The sign to be shown before a number. -/
def sign (conversion : Conversion) (negative : Bool) : Bytes :=
  if negative then bytes "-" else if conversion.signed then bytes "+"
  else if conversion.spaced then bytes " " else []

/-- Digits of a number, with zeros up to the precision. -/
def digits (conversion : Conversion) (mark digits : Bytes) : Bytes :=
  match conversion.precision with
  | some count =>
    let digits := if count = 0 && digits = bytes "0" then [] else digits
    conversion.fill mark (List.replicate (count - digits.length) 0x30 ++ digits) false
  | none => conversion.fill mark digits conversion.zeros

def integer (conversion : Conversion) (n : Int) : Bytes :=
  conversion.digits (conversion.sign (n < 0)) (bytes (toString n.natAbs))

/-- A number in a base, with the mark of the base if it is asked for. -/
def natural (conversion : Conversion) (base : Nat) (upper : Bool) (n : Nat) : Bytes :=
  let written := bytes (String.ofList (Nat.toDigits base n))
  let written := if upper then written.map Signal.upper else written
  if conversion.alternate && n ≠ 0 && base = 16 then
    conversion.digits (bytes (if upper then "0X" else "0x")) written
  else if conversion.alternate && base = 8 && written.head? ≠ some 0x30 then
    conversion.digits [] (0x30 :: written)
  else conversion.digits [] written

/-- A number with a fraction, as a letter asks for it. -/
def real (conversion : Conversion) (letter : UInt8) (negative : Bool) (n : Magnitude) : Bytes :=
  let isUpper : Bool := letter < 0x61
  let written := n.render (if isUpper then letter + 0x20 else letter)
    (conversion.precision.getD 6) conversion.alternate
  let isFinite : Bool := match n with
    | .finite .. => true
    | _ => false
  conversion.fill (conversion.sign negative)
    (if isUpper then written.map Signal.upper else written) (conversion.zeros && isFinite)

end Conversion

namespace Format

/-- The arguments that are left, what has been printed, and whether an argument was wrong. -/
structure State where
  args : List Bytes
  printed : Bytes := []
  failed : Bool := false
  /-- Whether an argument ends all output. -/
  ended : Bool := false

abbrev Printing := StateT State Action

def put (data : Bytes) : Printing Unit :=
  modify fun state => { state with printed := state.printed ++ data }

/-- The next argument; there is none after the last. -/
def nextArg : Printing (Option Bytes) := do
  let state ← get
  set { state with args := state.args.tail }
  return state.args.head?

/-- Complains about an argument. -/
def complain (arg : Bytes) (message : String) : Printing Unit := do
  Action.warn (arg ++ bytes (": " ++ message))
  modify fun state => { state with failed := true }

/-- The number that an argument is, or the number of the byte behind a quotation mark. -/
def nextInteger (isSigned : Bool) : Printing Int := do
  match ← nextArg with
  | none => return 0
  | some arg =>
    match arg with
    | 0x22 :: rest => return ((rest.head?.getD 0).toNat : Int)
    | 0x27 :: rest => return ((rest.head?.getD 0).toNat : Int)
    | _ =>
      let text := arg.dropWhile Arithmetic.isSpace
      let (negative, text) := match text with
        | 0x2d :: rest => (true, rest)
        | 0x2b :: rest => (false, rest)
        | _ => (false, text)
      let (base, digits, rest) := Arithmetic.digitsOf text
      let magnitude : Int := Arithmetic.valueIn base digits
      let value := if negative then -magnitude else magnitude
      let limit : Int := Arithmetic.largest
      let (value, inRange) : Int × Bool :=
        if isSigned then
          (max (-limit - 1) (min value limit), -limit - 1 ≤ value && value ≤ limit)
        else if 2 * limit + 1 < magnitude then (2 * limit + 1, false)
        else (value % (2 * limit + 2), true)
      if digits.isEmpty then
        if !arg.isEmpty then complain arg "expected numeric value"
        return 0
      if !rest.isEmpty then complain arg "not completely converted"
      else if !inRange then complain arg "Numerical result out of range"
      return value

/-- The number with a fraction that an argument is, and whether it is negative. -/
def nextReal : Printing (Bool × Magnitude) := do
  match ← nextArg with
  | none => return (false, .finite 0 1)
  | some (0x22 :: rest) => return (false, .finite (rest.head?.getD 0).toNat 1)
  | some (0x27 :: rest) => return (false, .finite (rest.head?.getD 0).toNat 1)
  | some arg =>
    let text := arg.dropWhile Arithmetic.isSpace
    let (negative, text) := match text with
      | 0x2d :: rest => (true, rest)
      | 0x2b :: rest => (false, rest)
      | _ => (false, text)
    match Magnitude.read? text with
    | none => do
      if !arg.isEmpty then complain arg "expected numeric value"
      return (false, .finite 0 1)
    | some ((n, isExact), rest) => do
      if !rest.isEmpty then complain arg "not completely converted"
      else if !isExact then complain arg "Numerical result out of range"
      return (negative, n)

/-- A width or a precision, which may be taken from the arguments, and the rest of the format. -/
def readCount (format : Bytes) : Printing (Int × Bytes) := do
  match format with
  | 0x2a :: rest => return (← nextInteger true, rest)
  | _ =>
    let digits := format.takeWhile isDigit
    return (Arithmetic.valueIn 10 digits, format.drop digits.length)

/-- Shows the next argument as a letter says. -/
def convert (conversion : Conversion) (letter : UInt8) : Printing Bool := do
  let is (letters : String) : Bool := (bytes letters).contains letter
  if is "s" then
    put (conversion.text ((← nextArg).getD []))
    return true
  else if is "b" then
    let (text, ended) := unescape ((← nextArg).getD [])
    put (conversion.text text)
    modify fun state => { state with ended }
    return true
  else if is "c" then
    let b := ((← nextArg).bind List.head?).getD Bytes.nul
    put (conversion.fill [] [b] false)
    return true
  else if is "di" then
    put (conversion.integer (← nextInteger true))
    return true
  else if is "ouxX" then
    let base := if is "o" then 8 else if is "u" then 10 else 16
    put (conversion.natural base (is "X") (← nextInteger false).toNat)
    return true
  else if is "eEfFgG" then
    let (negative, n) ← nextReal
    put (conversion.real letter negative n)
    return true
  else return false

/-- Prints the format once; at most `fuel` bytes of it are looked at. -/
def renderOnce : Nat → Bytes → Printing Unit
  | 0, _ => return
  | _, [] => return
  | fuel + 1, b :: rest => do
    if (← get).ended then return
    else if b = 0x5c then
      let (byte, rest) := escapeAt rest
      put [byte]
      renderOnce fuel rest
    else if b ≠ 0x25 then
      put [b]
      renderOnce fuel rest
    else if rest.head? = some 0x25 then
      put [b]
      renderOnce fuel rest.tail
    else
      let flags := rest.takeWhile fun c => (bytes "#-+ 0").contains c
      let (width, after) ← readCount (rest.drop flags.length)
      let (precision, after) ← match after with
        | 0x2e :: after => do
          let (precision, after) ← readCount after
          pure (if precision < 0 then none else some precision.toNat, after)
        | _ => pure (none, after)
      let conversion : Conversion := {
        leftAligned := flags.contains 0x2d || width < 0
        signed := flags.contains 0x2b
        spaced := flags.contains 0x20
        alternate := flags.contains 0x23
        zeros := flags.contains 0x30
        width := width.natAbs
        precision }
      match after with
      | [] => Action.fail (bytes "missing format character")
      | letter :: after =>
        if ← convert conversion letter then renderOnce fuel after
        else
          let written := b :: rest.take (rest.length - after.length)
          Action.fail (written ++ bytes ": invalid directive")

/-- Prints the format, and again as long as that uses arguments and there are more of them. -/
def renderAll (format : Bytes) : Nat → Printing Unit
  | 0 => return
  | fuel + 1 => do
    let before := (← get).args.length
    renderOnce format.length format
    let state ← get
    if !state.ended && !state.args.isEmpty && state.args.length < before then
      renderAll format fuel

/-- Prints arguments in a format; the result is a status. -/
def render (format : Bytes) (args : List Bytes) : Action Nat := do
  let (_, state) ← (renderAll format (args.length + 1)).run { args }
  Action.print state.printed
  return if state.failed then 1 else 0

end Format

end LineShell.Script
