import LineShell.Script.Fields
import LineShell.Script.Frame
import LineShell.Script.Pattern

/-!
# Expanding words

Words are expanded with the parameters of a `Frame`. `expandFields` gives the fields that the words
of a command become, after they have been split and after patterns have been replaced by the paths
that they match; `expandText` gives one text. Commands inside of words are run by a function that
is passed on.
-/

namespace LineShell.Script

/-- What happens to a word. -/
structure Mode where
  /-- Whether it is split into fields. -/
  splits : Bool := false
  /-- Whether a tilde at the beginning is replaced. -/
  tilde : Bool := false
  /-- Whether tildes are replaced behind an equals sign and the colons after it. -/
  assigns : Bool := false
  /-- Whether it stands for a parameter, so that what is not quoted is split, too. -/
  stands : Bool := false

/-- The mode for the words of a command. -/
def Mode.word : Mode := { splits := true, tilde := true }

/-- The mode for what is assigned to a variable. -/
def Mode.assignment : Mode := { assigns := true }

/-- The mode for all other words. -/
def Mode.single : Mode := { tilde := true }

/-! ## Tildes -/

/-- The home directory of a user. -/
def homeOf? (user : Bytes) : Option Bytes :=
  if user = bytes "root" then some (bytes "/root") else none

/-- The name of the user behind a tilde, and what follows; there is none if it is quoted. -/
def userAt? (endsAtColon : Bool) (word : Word) : Option (Bytes × Word) :=
  match word with
  | [] => some ([], [])
  | .byte b false :: rest =>
    if b = Bytes.slash || (endsAtColon && b = Bytes.colon) then some ([], word)
    else (userAt? endsAtColon rest).map fun (user, rest) => (b :: user, rest)
  | _ => none

/-- Replaces a tilde at the beginning. -/
def expandTilde (frame : Frame) (endsAtColon : Bool) (word : Word) : Word :=
  match word with
  | .byte 0x7e false :: rest =>
    match userAt? endsAtColon rest with
    | none => word
    | some (user, rest) =>
      match if user.isEmpty then frame.lookup (bytes "HOME") else homeOf? user with
      | some home => Word.ofText home true ++ rest
      | none => word
  | _ => word

/-- Replaces tildes behind the equals sign of an assignment and the colons in its value. -/
def expandTildes (frame : Frame) (word : Word) : Word :=
  let isPlain (b : UInt8) (piece : Piece) : Bool :=
    match piece with
    | .byte c false => b = c
    | _ => false
  let name := word.takeWhile (!isPlain Bytes.equals ·)
  match word.drop name.length with
  | [] => word
  | equals :: value =>
    let rec atColons : Nat → Word → Word
      | 0, value => value
      | fuel + 1, value =>
        let part := value.takeWhile (!isPlain Bytes.colon ·)
        match value.drop part.length with
        | [] => expandTilde frame true part
        | colon :: rest => expandTilde frame true part ++ colon :: atColons fuel rest
    name ++ equals :: atColons value.length value

def Mode.expandTildes (mode : Mode) (frame : Frame) (word : Word) : Word :=
  let word := if mode.tilde then expandTilde frame mode.assigns word else word
  if mode.assigns then Script.expandTildes frame word else word

/-! ## Parameters -/

/-- The value of a parameter; there may be any number of arguments. -/
inductive ParameterValue where
  | unset
  | text (text : Bytes)
  | arguments (texts : List Bytes)
  deriving DecidableEq, Repr

/-- The letters of all options, in the order in which they are shown. -/
def optionLetters : Bytes := bytes "ubaCEVvxsnmiIfe"

def Frame.parameter (frame : Frame) (name : Bytes) : ParameterValue :=
  let number (n : Nat) : ParameterValue := .text (bytes (toString n))
  let ofOption (value : Option Bytes) : ParameterValue :=
    match value with
    | some text => .text text
    | none => .unset
  if name = bytes "$" then number frame.number
  else if name = bytes "?" then number frame.status
  else if name = bytes "#" then number frame.parameters.length
  else if name = bytes "!" then ofOption (frame.lastJob.map fun n => bytes (toString n))
  else if name = bytes "-" then .text (optionLetters.filter frame.options.contains)
  else if name = bytes "@" || name = bytes "*" then .arguments frame.parameters
  else if name.all isDigit then
    match Arithmetic.valueIn 10 name with
    | 0 => .text frame.name
    | n + 1 => ofOption frame.parameters[n]?
  else ofOption (frame.lookup name)

/-- What fields are split at. -/
def Frame.separators (frame : Frame) : Bytes := (frame.lookup (bytes "IFS")).getD (bytes " \t\n")

/-- What stands between arguments that become one text. -/
def Frame.joint (frame : Frame) : Bytes :=
  match frame.lookup (bytes "IFS") with
  | some separators => separators.take 1
  | none => [Bytes.space]

/-- The value of a parameter, as it is before it is split. -/
def Frame.stretches (frame : Frame) (mode : Mode) (name : Bytes) (quoted : Bool) :
    ParameterValue → List Stretch
  | .unset => []
  | .text text => [⟨Glyph.ofText text quoted, if quoted then .whole else .atSeparators⟩]
  | .arguments texts =>
    let joined (joint : Bytes) : List Glyph :=
      Glyph.ofText (List.intercalate joint texts) quoted
    if mode.splits && quoted && name = bytes "@" then
      if texts.isEmpty then [] else [⟨joined [Bytes.nul], .atNuls⟩]
    else if mode.splits && !quoted then
      let joint := if (frame.lookup (bytes "IFS")).isSome then [Bytes.nul] else [Bytes.space]
      [⟨joined joint, .atSeparators⟩]
    else [⟨joined frame.joint, .whole⟩]

/-- The length of a value; the arguments are counted with one separator between neighbours. -/
def ParameterValue.length : ParameterValue → Nat
  | .unset => 0
  | .text value => value.length
  | .arguments texts => (List.intercalate [Bytes.space] texts).length

/-- Whether a parameter has a value, which perhaps must not be empty. -/
def ParameterValue.isSet (value : ParameterValue) (emptyToo : Bool) : Bool :=
  value ≠ .unset && !(emptyToo && value.length = 0)

/-! ## Paths -/

/-- Whether a list of bytes ends in a part of a pattern that begins with it. -/
def closesList : Bytes → Bool
  | [] => false
  | 0x5c :: _ :: rest => rest.head? = some 0x5d || closesList rest
  | _ :: rest => rest.head? = some 0x5d || closesList rest

/-- Whether a part of a pattern can match other names than the one that it spells. -/
def isOpen : Bytes → Bool
  | [] => false
  | 0x5c :: _ :: rest => isOpen rest
  | b :: rest =>
    b = 0x2a || b = 0x3f ||
      (b = 0x5b && closesList (if rest.head? = some 0x21 then rest.tail else rest)) ||
      isOpen rest

/-- A part of a pattern without its backslashes. -/
def spelled : Bytes → Bytes
  | 0x5c :: b :: rest => b :: spelled rest
  | b :: rest => b :: spelled rest
  | [] => []

/-- The parts of a pattern between the slashes. -/
def patternParts (pattern : Bytes) : List Bytes :=
  let rec dropEscapes : Bytes → Bytes
    | 0x5c :: 0x2f :: rest => 0x2f :: dropEscapes rest
    | 0x5c :: b :: rest => 0x5c :: b :: dropEscapes rest
    | b :: rest => b :: dropEscapes rest
    | [] => []
  split Bytes.slash (dropEscapes pattern)

/-- The names in a directory that match a part of a pattern. -/
def Frame.namesLike (frame : Frame) (dir : Bytes) (part : Bytes) : List Bytes :=
  match frame.walk (if dir.isEmpty then bytes "." else dir) with
  | .error _ => []
  | .ok node =>
    if !frame.machine.tree.isDirectory node then []
    else
      let names := bytes "." :: bytes ".." :: (frame.machine.tree.entries node).map (·.1)
      let hidden : Bool := (spelled part).head? = some 0x2e
      names.filter fun name =>
        (hidden || name.head? ≠ some 0x2e) && Pattern.accepts part name

/-- The paths that match the parts of a pattern after a directory. -/
def Frame.pathsLike (frame : Frame) (dir : Bytes) : List Bytes → List Bytes
  | [] => []
  | [part] =>
    if isOpen part then (frame.namesLike dir part).map (dir ++ ·)
    else
      let path := dir ++ spelled part
      if !dir.isEmpty && (frame.machine.tree.walkToLink frame.standpoint path).toOption.isSome then
        [path]
      else []
  | part :: parts =>
    if isOpen part then
      (frame.namesLike dir part).flatMap fun name =>
        frame.pathsLike (dir ++ name ++ [Bytes.slash]) parts
    else frame.pathsLike (dir ++ spelled part ++ [Bytes.slash]) parts

/-- The paths that a field stands for. -/
def Frame.pathsOf (frame : Frame) (field : List Glyph) : List Bytes :=
  let text := Glyph.text field
  if frame.hasOption 'f' || !text.any fun b => (bytes "*?[").contains b then [text]
  else
    match frame.pathsLike [] (patternParts (Glyph.pattern field)) with
    | [] => [text]
    | paths => paths.mergeSort Bytes.le

/-! ## Words -/

/-- How the variables of a frame are used in arithmetic. -/
def frameVariables : Arithmetic.Variables Frame where
  get := Frame.lookup
  set frame name value :=
    match (Action.setVariable name (some value)).run.run frame with
    | (.ok _, frame) => .ok frame
    | (.error _, _) => .error (name ++ bytes ": is read only")

/-- The value of an arithmetic expression. -/
def evaluate (expression : Bytes) : Action Int := do
  match Arithmetic.evaluate frameVariables (← get) expression with
  | .ok (n, frame) =>
    set frame
    return n
  | .error (.expression message) =>
    Action.fail (bytes s!"arithmetic expression: {message}: \"" ++ expression ++ bytes "\"")
  | .error (.badNumber value) => Action.badNumber value
  | .error (.refused message) => Action.fail message
  | .error .overflow => throw (.gone (.killed 8))

/-- Whether two pieces can be treated as one. -/
def Piece.joins : Piece → Piece → Bool
  | .byte _ a, .byte _ b => a = b
  | _, _ => false

/-- Without the quotation marks around all arguments, each of which is a field anyway. The flag
says whether a quotation is open. -/
def dropArgumentMarks : Bool → Word → Word
  | _, [] => []
  | false, .mark :: .parameter name .value quoted :: .mark :: rest =>
    if name = bytes "@" then .parameter name .value quoted :: dropArgumentMarks false rest
    else .mark :: .parameter name .value quoted :: .mark :: dropArgumentMarks false rest
  | inside, .mark :: rest => .mark :: dropArgumentMarks (!inside) rest
  | inside, piece :: rest => piece :: dropArgumentMarks inside rest

/-- The output of a command without the newlines at its end. -/
def withoutLineEnds (output : Bytes) : Bytes :=
  ((output.filter (· ≠ Bytes.nul)).reverse.dropWhile (· = Bytes.newline)).reverse

variable (run : Option Command → Action Bytes)

/-- Fails because a parameter is not set. -/
def failUnset {α : Type} (name : Bytes) (emptyToo : Bool) : Action α :=
  Action.fail (name ++ bytes ": parameter not set" ++ if emptyToo then bytes " or null" else [])

/-- Expands a parameter; `expand` expands the words in it. -/
def expandParameter (expand : Mode → Word → Action (List Stretch)) (mode : Mode) (name : Bytes)
    (use : Use) (quoted : Bool) : Action (List Stretch) := do
  let frame ← get
  let value := frame.parameter name
  let standing : Mode := { mode with tilde := true, stands := true }
  let stretches := frame.stretches mode name quoted value
  let demanded : Action Unit := do
    if value = .unset && frame.hasOption 'u' then failUnset name false
  match use with
  | .value =>
    demanded
    return stretches
  | .length =>
    demanded
    let text := bytes (toString value.length)
    return [⟨Glyph.ofText text quoted, if quoted then .whole else .atSeparators⟩]
  | .orElse emptyToo word => if value.isSet emptyToo then return stretches else expand standing word
  | .whenSet emptyToo word =>
    if value.isSet emptyToo then expand standing word
    else return if quoted then [] else [⟨[], .atSeparators⟩]
  | .assign emptyToo word =>
    if value.isSet emptyToo then return stretches
    else
      let text := Stretch.text (← expand .single word)
      Action.setVariable name (some text)
      let frame ← get
      return frame.stretches mode name quoted (frame.parameter name)
  | .demand emptyToo word =>
    if value.isSet emptyToo then return stretches
    else if word.isEmpty then failUnset name emptyToo
    else
      let text := Stretch.text (← expand .single word)
      Action.fail (name ++ bytes ": " ++ text)
  | .cut part word =>
    demanded
    if value = .unset then return []
    else
      let pattern := Stretch.pattern (← expand .single word)
      return stretches.map fun stretch =>
        let left := Pattern.remaining part pattern (Glyph.text stretch.glyphs)
        { stretch with glyphs := Glyph.ofText left quoted }
  | .unknown => Action.fail (bytes "Bad substitution")

/-- Expands a word of which no more than `fuel` words are inside one another. -/
def expandWord : Nat → Mode → Word → Action (List Stretch)
  | 0, _, _ => Action.fail (bytes "Out of space")
  | fuel + 1, mode, word => do
    let word := dropArgumentMarks false (mode.expandTildes (← get) word)
    let splitting (quoted : Bool) : Splitting := if quoted then .whole else .atSeparators
    let stretches ← (word.splitBy Piece.joins).mapM fun (group : List Piece) =>
      match group with
      | [] => pure []
      | .byte _ quoted :: _ =>
        let text := Word.literal group
        let stands : Bool := mode.stands && !quoted
        pure [⟨Glyph.ofText text quoted, splitting (!stands)⟩]
      | .mark :: _ => pure [⟨[.mark], .whole⟩]
      | .parameter name use quoted :: _ =>
        expandParameter (fun mode word => expandWord fuel mode word) mode name use quoted
      | .output commands quoted :: _ => do
        let text := withoutLineEnds (← run commands)
        return [⟨Glyph.ofText text quoted, splitting quoted⟩]
      | .arithmetic expression quoted :: _ => do
        let text := Stretch.text (← expandWord fuel {} expression)
        return [⟨Glyph.ofText (bytes (toString (← evaluate text))) quoted, splitting quoted⟩]
    return stretches.flatten

/-- How deep words can be inside one another. -/
def maxWordDepth : Nat := 200

/-- The text that a word becomes. -/
def expandText (mode : Mode) (word : Word) : Action Bytes := do
  return Stretch.text (← expandWord run maxWordDepth mode word)

/-- The pattern that a word becomes. -/
def expandPattern (word : Word) : Action Bytes := do
  return Stretch.pattern (← expandWord run maxWordDepth .single word)

/-- The fields that a word of a command becomes. -/
def expandFields (word : Word) : Action (List Bytes) := do
  let stretches ← expandWord run maxWordDepth .word word
  let frame ← get
  return (Stretch.fields frame.separators none stretches).flatMap frame.pathsOf

end LineShell.Script
