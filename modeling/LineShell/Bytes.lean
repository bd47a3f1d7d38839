/-!
# Byte strings and text

Lines, words, variable values and paths are byte strings: no encoding is assumed of them. What
the shell says on its own account is text, and `Text.utf8` gives its bytes.
-/

namespace LineShell

/-- A byte string. -/
abbrev Bytes := List UInt8

/-- Unicode text, as its characters in order. -/
abbrev Text := List Char

/-- The UTF-8 bytes of a text. -/
def Text.utf8 (text : Text) : Bytes := text.flatMap String.utf8EncodeChar

/-- The UTF-8 bytes of a literal. -/
def bytes (literal : String) : Bytes := Text.utf8 literal.toList

namespace Bytes

def nul : UInt8 := 0x00
def newline : UInt8 := 0x0a
def carriageReturn : UInt8 := 0x0d
def space : UInt8 := 0x20
def dollar : UInt8 := 0x24
def slash : UInt8 := 0x2f
def colon : UInt8 := 0x3a
def equals : UInt8 := 0x3d

/-- Whether the byte string has a NUL, which no path, argument or environment entry may hold. -/
def hasNul (text : Bytes) : Bool := text.contains nul

/-- Whether `b` may stand in a variable name: an ASCII letter, a digit or an underscore. -/
def isNameByte (b : UInt8) : Bool :=
  (0x30 ≤ b && b ≤ 0x39) || (0x41 ≤ b && b ≤ 0x5a) || (0x61 ≤ b && b ≤ 0x7a) || b == 0x5f

/-- The order of byte strings by their first difference; a proper beginning comes first. -/
def le : Bytes → Bytes → Bool
  | [], _ => true
  | _ :: _, [] => false
  | a :: as, b :: bs => a < b || (a == b && le as bs)

end Bytes

end LineShell
