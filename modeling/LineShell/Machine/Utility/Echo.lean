import LineShell.Machine.Utility.Task

/-!
# Printing words

`runEcho` prints its operands. If it is asked to, or the environment asks for strictly conforming
programs, it puts bytes in place of their escapes (`unescape`).
-/

namespace LineShell.Utility

/-- The byte that a letter after a backslash stands for. -/
def escapes : List (UInt8 × UInt8) := [
  (0x61, 0x07), (0x62, 0x08), (0x65, 0x1b), (0x66, 0x0c), (0x6e, 0x0a), (0x72, 0x0d),
  (0x74, 0x09), (0x76, 0x0b), (0x5c, 0x5c)]

/-- The value of a digit, up to sixteen. -/
def digitValue (b : UInt8) : Nat :=
  if 0x30 ≤ b && b ≤ 0x39 then b.toNat - 0x30
  else if 0x61 ≤ b && b ≤ 0x66 then b.toNat - 0x57
  else if 0x41 ≤ b && b ≤ 0x46 then b.toNat - 0x37
  else 16

/-- The digits of a base at the beginning, no more than `count`. -/
def digitsOf (base count : Nat) (text : Bytes) : Bytes :=
  (text.take count).takeWhile (digitValue · < base)

/-- The number with the given digits. -/
def ofDigits (base : Nat) (digits : Bytes) : Nat :=
  digits.foldl (fun value b => value * base + digitValue b) 0

/-- Puts bytes in place of escapes; the flag says whether one of them ends the output. At most
`fuel` bytes are looked at. -/
def unescape : Nat → Bytes → Bytes × Bool
  | 0, _ => ([], false)
  | _ + 1, [] => ([], false)
  | fuel + 1, b :: rest =>
    let literal (written : Bytes) (rest : Bytes) : Bytes × Bool :=
      let (text, ended) := unescape fuel rest
      (written ++ text, ended)
    let number (base count : Nat) (text other : Bytes) : Bytes × Bool :=
      let digits := digitsOf base count text
      if digits.isEmpty then literal other text
      else literal [UInt8.ofNat (ofDigits base digits)] (text.drop digits.length)
    if b ≠ 0x5c then literal [b] rest
    else
      match rest with
      | [] => ([b], false)
      | c :: rest =>
        if c = 0x63 then ([], true)
        else if c = 0x30 then number 8 3 rest [Bytes.nul]
        else if c = 0x78 then number 16 2 rest [b, c]
        else if digitValue c < 8 then number 8 3 (c :: rest) []
        else
          match escapes.lookup c with
          | some written => literal [written] rest
          | none => literal [b, c] rest

/-- Prints the operands. Leading options say whether escapes are interpreted (e, E) and whether
the newline is left out (n). -/
def runEcho (process : Process) : Task Nat := do
  let isOption (arg : Bytes) : Bool :=
    arg.head? = some 0x2d && 2 ≤ arg.length && arg.tail.all fun b => [0x6e, 0x65, 0x45].contains b
  let strict := isStrict process
  let args := process.operands
  let given := if strict && args.head? ≠ some (bytes "-n") then [] else args.takeWhile isOption
  let flags := given.flatMap List.tail
  let text := join Bytes.space (args.drop given.length)
  let interpreted := strict || (flags.filter (· ≠ 0x6e)).getLast? = some 0x65
  let (text, ended) := if interpreted then unescape text.length text else (text, false)
  print process (if flags.contains 0x6e || ended then text else text ++ [Bytes.newline])
  return 0

end LineShell.Utility
