import LineShell.Script.Arithmetic

/-!
# Numbers with a fraction

A `Magnitude` is what `printf` shows with decimals: a number with at most 53 binary digits. A text
is rounded to the nearest one (`Magnitude.read?`), and that again to as many decimals as are shown
(`Magnitude.fixed`, `Magnitude.scientific`, `Magnitude.general`). What is in the middle goes to the
even neighbour.
-/

namespace LineShell.Script

/-- A number without its sign. -/
inductive Magnitude where
  /-- A fraction; what is below the line is not zero. -/
  | finite (num den : Nat)
  | infinite
  | undefined
  deriving DecidableEq, Repr

namespace Magnitude

/-- A quotient to the nearest whole number. -/
def roundedQuotient (num den : Nat) : Nat :=
  let whole := num / den
  let twice := 2 * (num % den)
  if twice < den || (twice = den && whole % 2 = 0) then whole else whole + 1

/-- A fraction times a power of two. -/
def scaled (num den : Nat) (exponent : Int) : Nat × Nat :=
  (num <<< exponent.toNat, den <<< (-exponent).toNat)

/-- The exponent of the last of 53 binary digits of a fraction; there are fewer digits if it is
very small. -/
def lastExponent (num den : Nat) : Int :=
  let exponent : Int := (num.log2 : Int) - den.log2 - 52
  let (n, d) := scaled num den (-exponent)
  max (-1074) (if n / d < 1 <<< 52 then exponent - 1 else exponent)

/-- A fraction with at most 53 binary digits, and whether it is as near as it ought to be. -/
def nearest (num den : Nat) : Magnitude × Bool :=
  if num = 0 then (.finite 0 1, true)
  else
    let exponent := lastExponent num den
    let (n, d) := scaled num den (-exponent)
    let digits := roundedQuotient n d
    let (top, bottom) := scaled digits 1 exponent
    if 1 <<< 1024 ≤ top / bottom then (.infinite, false)
    else (.finite top bottom, 1 <<< 52 ≤ digits || n % d = 0)

/-! ## Reading -/

/-- The exponent behind a letter, if there is one, and the rest. -/
def readExponent (letter : UInt8) (text : Bytes) : Int × Bytes :=
  match text with
  | b :: rest =>
    let (negative, after) := match rest with
      | 0x2d :: after => (true, after)
      | 0x2b :: after => (false, after)
      | _ => (false, rest)
    let digits := after.takeWhile isDigit
    if (b = letter || b = letter - 0x20) && !digits.isEmpty then
      let n : Int := Arithmetic.valueIn 10 digits
      (if negative then -n else n, after.drop digits.length)
    else (0, text)
  | [] => (0, [])

/-- The digits of a base at the beginning, and those behind a point. -/
def readDigits (base : Nat) (text : Bytes) : Bytes × Bytes × Bytes :=
  let isBaseDigit (b : UInt8) : Bool := Arithmetic.hexValue b < base
  let whole := text.takeWhile isBaseDigit
  match text.drop whole.length with
  | 0x2e :: rest =>
    let decimals := rest.takeWhile isBaseDigit
    (whole, decimals, rest.drop decimals.length)
  | rest => (whole, [], rest)

/-- Beyond so many places every number is zero or infinite. -/
def maxPlaces : Nat := 1200

/-- The number with some digits in base ten or sixteen. -/
def ofDigits (isHex : Bool) (whole decimals : Bytes) (exponent : Int) : Magnitude × Bool :=
  let digits := whole ++ decimals
  let value := Arithmetic.valueIn (if isHex then 16 else 10) digits
  let exponent := exponent - (if isHex then 4 * decimals.length else decimals.length)
  let places : Int := exponent + (if isHex then 4 * digits.length else digits.length)
  if value = 0 then (.finite 0 1, true)
  else if maxPlaces < places then (.infinite, false)
  else if places < -maxPlaces then (.finite 0 1, false)
  else
    let base := if isHex then 2 else 10
    nearest (value * Nat.pow base exponent.toNat) (Nat.pow base (-exponent).toNat)

/-- Whether a text begins with a word, whose letters may be capital. -/
def beginsWith (word : String) (text : Bytes) : Bool :=
  (bytes word).isPrefixOf (text.map fun b => if 0x41 ≤ b && b ≤ 0x5a then b + 0x20 else b)

/-- The number at the beginning of a text, whether it is exact enough, and the rest. -/
def read? (text : Bytes) : Option ((Magnitude × Bool) × Bytes) :=
  if beginsWith "infinity" text then some ((.infinite, true), text.drop 8)
  else if beginsWith "inf" text then some ((.infinite, true), text.drop 3)
  else if beginsWith "nan" text then some ((.undefined, true), text.drop 3)
  else
    let (hexWhole, hexDecimals, hexRest) := readDigits 16 (text.drop 2)
    if beginsWith "0x" text && !(hexWhole ++ hexDecimals).isEmpty then
      let (exponent, rest) := readExponent 0x70 hexRest
      some (ofDigits true hexWhole hexDecimals exponent, rest)
    else
      let (whole, decimals, rest) := readDigits 10 text
      if (whole ++ decimals).isEmpty then none
      else
        let (exponent, rest) := readExponent 0x65 rest
        some (ofDigits false whole decimals exponent, rest)

/-! ## Showing -/

/-- The decimal digits of a number, no fewer than `count`. -/
def decimalDigits (count n : Nat) : Bytes :=
  let digits := bytes (toString n)
  List.replicate (count - digits.length) 0x30 ++ digits

/-- Digits with a point before the last ones. -/
def withPoint (places : Nat) (keepsPoint : Bool) (digits : Bytes) : Bytes :=
  let whole := digits.take (digits.length - places)
  if places = 0 && !keepsPoint then whole
  else whole ++ 0x2e :: digits.drop (digits.length - places)

/-- A fraction with a number of decimals. -/
def fixed (places : Nat) (keepsPoint : Bool) (num den : Nat) : Bytes :=
  withPoint places keepsPoint
    (decimalDigits (places + 1) (roundedQuotient (num * Nat.pow 10 places) den))

/-- The power of ten that the first digit of a fraction stands for. -/
def firstExponent (num den : Nat) : Int :=
  if num = 0 then 0
  else if den ≤ num then ((bytes (toString (num / den))).length : Int) - 1
  else
    let below := (List.range maxPlaces).find? fun k => den ≤ num * Nat.pow 10 k
    0 - ((below.getD maxPlaces : Nat) : Int)

/-- The digits of a fraction, and the power of ten that the first of them stands for. -/
def significant (places : Nat) (num den : Nat) : Nat × Int :=
  let exponent := firstExponent num den
  let shift := (places : Int) - exponent
  let digits := roundedQuotient (num * Nat.pow 10 shift.toNat) (den * Nat.pow 10 (-shift).toNat)
  if Nat.pow 10 (places + 1) ≤ digits then (digits / 10, exponent + 1) else (digits, exponent)

def exponentText (exponent : Int) : Bytes :=
  (if exponent < 0 then bytes "e-" else bytes "e+") ++ decimalDigits 2 exponent.natAbs

/-- A fraction with one digit before the point and a power of ten. -/
def scientific (places : Nat) (keepsPoint : Bool) (num den : Nat) : Bytes :=
  let (digits, exponent) := significant places num den
  withPoint places keepsPoint (decimalDigits (places + 1) digits) ++ exponentText exponent

/-- Takes away zeros at the end, and the point if nothing follows it. -/
def withoutZeros (text : Bytes) : Bytes :=
  if text.contains 0x2e then
    let digits := (text.reverse.dropWhile (· = 0x30)).reverse
    if digits.getLast? = some 0x2e then digits.dropLast else digits
  else text

/-- A fraction with so many digits, in the shorter way of the two. -/
def general (count : Nat) (keepsZeros : Bool) (num den : Nat) : Bytes :=
  let count := max 1 count
  let (digits, exponent) := significant (count - 1) num den
  let shorten (text : Bytes) : Bytes := if keepsZeros then text else withoutZeros text
  if -4 ≤ exponent && exponent < count then
    shorten (fixed ((count : Int) - 1 - exponent).toNat keepsZeros num den)
  else
    shorten (withPoint (count - 1) keepsZeros (decimalDigits count digits)) ++ exponentText exponent

/-- A number as one of the letters e, f and g asks for it. -/
def render (letter : UInt8) (precision : Nat) (alternate : Bool) : Magnitude → Bytes
  | finite num den =>
    if letter = 0x65 then scientific precision alternate num den
    else if letter = 0x66 then fixed precision alternate num den
    else general precision alternate num den
  | infinite => bytes "inf"
  | undefined => bytes "nan"

end Magnitude

end LineShell.Script
