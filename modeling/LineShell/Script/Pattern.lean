import LineShell.Bytes
import LineShell.Script.Grammar

/-!
# Patterns

In a pattern, a star stands for any text, a question mark for any byte, and a list in brackets for
one of the bytes in it. A byte behind a backslash stands for itself. `Pattern.accepts` says whether
a whole text is of a pattern.
-/

namespace LineShell.Script.Pattern

/-- The classes of bytes that a list can name. -/
def classes : List (String × (UInt8 → Bool)) :=
  let isDigit (b : UInt8) : Bool := 0x30 ≤ b && b ≤ 0x39
  let isUpper (b : UInt8) : Bool := 0x41 ≤ b && b ≤ 0x5a
  let isLower (b : UInt8) : Bool := 0x61 ≤ b && b ≤ 0x7a
  let isAlpha (b : UInt8) : Bool := isUpper b || isLower b
  let isGraph (b : UInt8) : Bool := 0x21 ≤ b && b ≤ 0x7e
  [("alnum", fun b => isAlpha b || isDigit b), ("alpha", isAlpha),
    ("blank", fun b => b = 0x20 || b = 0x09), ("cntrl", fun b => b < 0x20 || b = 0x7f),
    ("digit", isDigit), ("graph", isGraph), ("lower", isLower),
    ("print", fun b => isGraph b || b = 0x20),
    ("punct", fun b => isGraph b && !isAlpha b && !isDigit b),
    ("space", fun b => b = 0x20 || (0x09 ≤ b && b ≤ 0x0d)), ("upper", isUpper),
    ("xdigit", fun b => isDigit b || (0x41 ≤ b && b ≤ 0x46) || (0x61 ≤ b && b ≤ 0x66))]

/-- The class that a list names at its beginning, and what follows. -/
def class? (list : Bytes) : Option ((UInt8 → Bool) × Bytes) :=
  classes.findSome? fun (name, isIn) =>
    let written := bytes ("[:" ++ name ++ ":]")
    if written.isPrefixOf list then some (isIn, list.drop written.length) else none

/-- The byte at the beginning of a pattern, without its backslash, and what follows. -/
def plainByte : Bytes → Option (UInt8 × Bytes)
  | 0x5c :: b :: rest => some (b, rest)
  | b :: rest => some (b, rest)
  | [] => none

/-- Whether a byte is in a list, and what follows the bracket that ends it. At most `fuel` members
are looked at; there has to be one before the list can end. -/
def isInList : Nat → UInt8 → Bool → Bytes → Option (Bool × Bytes)
  | 0, _, _, _ => none
  | fuel + 1, b, started, list =>
    if started && list.head? = some 0x5d then some (false, list.tail)
    else
      let more (found : Bool) (rest : Bytes) : Option (Bool × Bytes) :=
        (isInList fuel b true rest).map fun (foundLater, rest) => (found || foundLater, rest)
      match class? list with
      | some (isIn, rest) => more (isIn b) rest
      | none => do
        let (first, rest) ← plainByte list
        match rest with
        | 0x2d :: next :: _ =>
          if next = 0x5d then more (b = first) rest
          else
            let (last, rest) ← plainByte rest.tail
            more (first ≤ b && b ≤ last) rest
        | _ => more (b = first) rest

/-- Whether a byte is one of those that a list allows, and what follows the list. -/
def allows? (b : UInt8) (list : Bytes) : Option (Bool × Bytes) :=
  let isNegated : Bool := list.head? = some 0x21
  let members := if isNegated then list.tail else list
  (isInList members.length b false members).map fun (found, rest) => (found ≠ isNegated, rest)

/-- Whether a text is of a pattern of which no more than `fuel` bytes are looked at. -/
def acceptsFrom : Nat → Bytes → Bytes → Bool
  | 0, pattern, text => pattern.isEmpty && text.isEmpty
  | _, [], text => text.isEmpty
  | fuel + 1, 0x2a :: pattern, text =>
    (List.range (text.length + 1)).any fun n => acceptsFrom fuel pattern (text.drop n)
  | fuel + 1, c :: pattern, text =>
    let literal : Bool :=
      match plainByte (c :: pattern), text with
      | some (c, pattern), b :: text => b = c && acceptsFrom fuel pattern text
      | _, _ => false
    match c, text with
    | 0x3f, _ :: text => acceptsFrom fuel pattern text
    | 0x3f, [] => false
    | 0x5b, b :: text =>
      match allows? b pattern with
      | some (allowed, pattern) => allowed && acceptsFrom fuel pattern text
      | none => literal
    | _, _ => literal

/-- Whether a text is of a pattern. -/
def accepts (pattern text : Bytes) : Bool := acceptsFrom pattern.length pattern text

/-- What is left of a text after a part has been cut off that is of a pattern. -/
def remaining (cut : Cut) (pattern text : Bytes) : Bytes :=
  let lengths := List.range (text.length + 1)
  let rest? := match cut with
    | .shortestStart => (lengths.find? fun n => accepts pattern (text.take n)).map text.drop
    | .longestStart =>
      (lengths.reverse.find? fun n => accepts pattern (text.take n)).map text.drop
    | .shortestEnd =>
      (lengths.reverse.find? fun n => accepts pattern (text.drop n)).map text.take
    | .longestEnd => (lengths.find? fun n => accepts pattern (text.drop n)).map text.take
  rest?.getD text

end LineShell.Script.Pattern
