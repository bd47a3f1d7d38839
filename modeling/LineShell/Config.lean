import LineShell.Failure
import LineShell.Pieces
import LineShell.Text.Blank
import LineShell.Text.Utf8

/-!
# Configuration

A `Config` has the shell's two texts and its three limits. `Config.ofText` reads one from lines
of the form `key=value`; blank lines and lines that begin with a hash mark count, but say nothing.
The texts are taken verbatim, so that a prompt may end in a space; keys and limits are trimmed.
The later of two lines with one key wins, and the first faulty line refuses the whole.
-/

namespace LineShell

structure Config where
  prompt : Text := "micro shell prompt > ".toList
  farewell : Text := "Good Bye".toList
  /-- The longest result of an expansion, in bytes; the rest is cut off. -/
  expandCapacity : Nat := 8191
  /-- The longest name read after a dollar sign. -/
  varNameMax : Nat := 4095
  /-- The most tokens read from one line. -/
  maxTokens : Nat := 4096
  deriving DecidableEq, Repr

/-- What one line of a configuration sets. -/
inductive Setting where
  | prompt (text : Text)
  | farewell (text : Text)
  | expandCapacity (limit : Nat)
  | varNameMax (limit : Nat)
  | maxTokens (limit : Nat)
  deriving DecidableEq, Repr

namespace Setting

/-- The value of a sequence of ASCII digits; nothing else has one. -/
def digitsValue : Nat → Text → Option Nat
  | value, [] => some value
  | value, c :: rest =>
    if '0' ≤ c && c ≤ '9' then digitsValue (value * 10 + (c.toNat - 48)) rest else none

/-- A whole number of 64 bits without sign: digits, after at most one plus sign. -/
def size? (text : Text) : Option Nat :=
  let digits := match text with
    | '+' :: rest => rest
    | _ => text
  if digits.isEmpty then none
  else (digitsValue 0 digits).filter (· < UInt64.size)

/-- A limit is a size other than zero, with blanks around it. -/
def limit? (value : Text) : Option Nat := (size? value.trim).filter (0 < ·)

/-- What the line sets; a blank line or a comment sets nothing. -/
def ofLine? (line : Text) : Except LineFault (Option Setting) :=
  if line.trim.isEmpty || line.head? = some '#' then .ok none
  else
    match cutAt '=' line with
    | none => .error (.noEquals line)
    | some (key, value) =>
      let limited (setting : Nat → Setting) : Except LineFault (Option Setting) :=
        match limit? value with
        | some limit => .ok (some (setting limit))
        | none => .error (.invalidLimit line)
      let key := Text.trim key
      if key = "prompt".toList then .ok (some (.prompt value))
      else if key = "farewell".toList then .ok (some (.farewell value))
      else if key = "expand_capacity".toList then limited .expandCapacity
      else if key = "var_name_max".toList then limited .varNameMax
      else if key = "max_tokens".toList then limited .maxTokens
      else .error (.unknownKey key)

end Setting

namespace Config

def apply (config : Config) : Setting → Config
  | .prompt text => { config with prompt := text }
  | .farewell text => { config with farewell := text }
  | .expandCapacity limit => { config with expandCapacity := limit }
  | .varNameMax limit => { config with varNameMax := limit }
  | .maxTokens limit => { config with maxTokens := limit }

/-- Reads the remaining lines, the first of which has the given number. -/
def ofLines (number : Nat) (config : Config) : List Text → Except ConfigError Config
  | [] => .ok config
  | line :: rest =>
    match Setting.ofLine? line with
    | .error fault => .error (.malformed number fault)
    | .ok none => ofLines (number + 1) config rest
    | .ok (some setting) => ofLines (number + 1) (config.apply setting) rest

/-- The configuration that a text describes. -/
def ofText (text : Text) : Except ConfigError Config := ofLines 1 {} (lines '\n' '\r' text)

/-- The configuration that the bytes of a file describe. The file is read line by line, each of
which has to be text, before the lines are looked at as one text. -/
def ofFile (content : Bytes) : Except ConfigError Config :=
  match (lines Bytes.newline Bytes.carriageReturn content).mapM Text.decode with
  | none => .error (.unreadable .notText)
  | some texts => ofText (texts.flatMap (· ++ ['\n']))

end Config

end LineShell
