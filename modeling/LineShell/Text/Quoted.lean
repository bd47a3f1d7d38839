import LineShell.Text.Combining
import LineShell.Text.Unprintable

/-!
# Quoted text

`quoted` shows a text between double quotes on one line, whatever characters it has: the usual
escapes for NUL, tab, line ends, the backslash and the quote, and the code point in hexadecimal
for every other character that is unprintable or combines with its neighbour.
-/

namespace LineShell.Text

/-- The code point in lower-case hexadecimal, without leading zeros. -/
def codePoint (c : Char) : Text := Nat.toDigits 16 c.toNat

/-- One character of a quoted text. -/
def escape (c : Char) : Text :=
  if c = '\x00' then ['\\', '0']
  else if c = '\t' then ['\\', 't']
  else if c = '\r' then ['\\', 'r']
  else if c = '\n' then ['\\', 'n']
  else if c = '\\' then ['\\', '\\']
  else if c = '"' then ['\\', '"']
  else if isCombining c || isUnprintable c then ['\\', 'u', '{'] ++ codePoint c ++ ['}']
  else [c]

def quoted (text : Text) : Text := '"' :: text.flatMap escape ++ ['"']

end LineShell.Text
