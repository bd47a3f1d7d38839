import LineShell.Bytes

/-!
# Reading UTF-8

`Decoder` reads UTF-8 one byte at a time. Where the bytes are no UTF-8, each longest beginning of
a character that its next byte does not continue counts as one piece of junk: `decode` refuses
junk, `lossy` shows every piece of it as U+FFFD.
-/

namespace LineShell.Text

/-- Where a decoder stands: between two characters, or inside one whose next byte must lie from
`lo` to `hi` and is followed by `more` others. -/
inductive Decoder where
  | between
  | inside (more : Nat) (lo hi : UInt8) (value : Nat)
  deriving DecidableEq, Repr

namespace Decoder

/-- The first byte of a character fixes its length and the range of its second byte. -/
def start (b : UInt8) : List (Option Char) × Decoder :=
  if b < 0x80 then ([some (Char.ofNat b.toNat)], between)
  else if b < 0xc2 then ([none], between)
  else if b < 0xe0 then ([], inside 0 0x80 0xbf (b.toNat - 0xc0))
  else if b = 0xe0 then ([], inside 1 0xa0 0xbf 0)
  else if b = 0xed then ([], inside 1 0x80 0x9f 0xd)
  else if b < 0xf0 then ([], inside 1 0x80 0xbf (b.toNat - 0xe0))
  else if b = 0xf0 then ([], inside 2 0x90 0xbf 0)
  else if b < 0xf4 then ([], inside 2 0x80 0xbf (b.toNat - 0xf0))
  else if b = 0xf4 then ([], inside 2 0x80 0x8f 4)
  else ([none], between)

/-- Reads one byte: what it completes, `none` being a piece of junk, and the next state. -/
def feed : Decoder → UInt8 → List (Option Char) × Decoder
  | between, b => start b
  | inside more lo hi value, b =>
    if lo ≤ b && b ≤ hi then
      let value := value * 64 + (b.toNat - 0x80)
      match more with
      | 0 => ([some (Char.ofNat value)], between)
      | more + 1 => ([], inside more 0x80 0xbf value)
    else
      let (pieces, next) := start b
      (none :: pieces, next)

/-- The characters and pieces of junk of the rest of a byte string. -/
def scan : Decoder → Bytes → List (Option Char)
  | between, [] => []
  | inside .., [] => [none]
  | decoder, b :: rest => (decoder.feed b).1 ++ (decoder.feed b).2.scan rest

end Decoder

/-- The text, if the bytes are UTF-8. -/
def decode (encoded : Bytes) : Option Text := (Decoder.between.scan encoded).mapM id

/-- The text with U+FFFD for every piece of junk. -/
def lossy (encoded : Bytes) : Text := (Decoder.between.scan encoded).map (·.getD '\ufffd')

end LineShell.Text
