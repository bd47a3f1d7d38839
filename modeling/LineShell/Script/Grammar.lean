import LineShell.Bytes

/-!
# The script language

A script is a sequence of commands. The words of a command are kept as their pieces, so that what
was quoted is still known when parameters are expanded. Documents, which are texts inside a script
that a command reads, are kept apart from the commands and known by their index.
-/

namespace LineShell.Script

/-- What is cut off a value: the shortest or the longest part, at its start or at its end. -/
inductive Cut where
  | shortestStart
  | longestStart
  | shortestEnd
  | longestEnd
  deriving DecidableEq, Repr

/-- The sign of a redirection. -/
inductive Sign where
  | read
  | write
  /-- Writes even to a file that is protected from being overwritten. -/
  | overwrite
  | append
  | readWrite
  /-- Makes a descriptor the same as another one. -/
  | copy
  /-- Reads a document. -/
  | document (stripsTabs : Bool)
  deriving DecidableEq, Repr

mutual

/-- A part of a word. What is quoted is never split, and matches only itself. -/
inductive Piece where
  | byte (b : UInt8) (quoted : Bool)
  /-- A quotation mark, because of which an empty word is a word. -/
  | mark
  | parameter (name : Bytes) (use : Use) (quoted : Bool)
  /-- What commands print. -/
  | output (commands : Option Command) (quoted : Bool)
  | arithmetic (expression : List Piece) (quoted : Bool)

/-- What is made of a parameter. A flag says whether an empty value is as good as none. -/
inductive Use where
  | value
  | length
  | orElse (emptyToo : Bool) (word : List Piece)
  | whenSet (emptyToo : Bool) (word : List Piece)
  | assign (emptyToo : Bool) (word : List Piece)
  | demand (emptyToo : Bool) (word : List Piece)
  | cut (part : Cut) (pattern : List Piece)
  /-- Nothing that the language knows. -/
  | unknown

/-- A redirection of a descriptor. -/
inductive Redirect where
  | file (number : Nat) (sign : Sign) (target : List Piece)
  | document (number : Nat) (index : Nat)

/-- A command, with the line on which it begins. -/
inductive Command where
  | simple (line : Nat) (assignments : List (List Piece)) (words : List (List Piece))
      (redirects : List Redirect)
  | pipeline (parts : List Command) (background : Bool)
  | sequence (commands : List Command)
  | both (first second : Command)
  | either (first second : Command)
  | negated (command : Command)
  | redirected (line : Nat) (command : Command) (redirects : List Redirect)
  | background (line : Nat) (command : Command) (redirects : List Redirect)
  | subshell (line : Nat) (command : Command) (redirects : List Redirect)
  | choice (condition yes : Command) (no : Option Command)
  /-- Repeats a command while the condition succeeds, or while it fails. -/
  | repeated (onSuccess : Bool) (condition command : Command)
  | loop (line : Nat) (name : Bytes) (values : List (List Piece)) (command : Command)
  | selection (line : Nat) (word : List Piece)
      (clauses : List (List (List Piece) × Option Command))
  | definition (line : Nat) (name : Bytes) (command : Command)

end

/-- A word of a script. -/
abbrev Word := List Piece

namespace Word

/-- The text of a word that has nothing quoted or expanded. -/
def plain? (word : Word) : Option Bytes :=
  word.mapM fun piece =>
    match piece with
    | .byte b false => some b
    | _ => none

/-- The bytes of a word as they are written, without the quotes. -/
def literal (word : Word) : Bytes :=
  word.filterMap fun piece =>
    match piece with
    | .byte b _ => some b
    | _ => none

/-- A word that is a text and nothing else. -/
def ofText (text : Bytes) (quoted : Bool) : Word := text.map (Piece.byte · quoted)

end Word

/-! ## Names -/

def isDigit (b : UInt8) : Bool := 0x30 ≤ b && b ≤ 0x39

/-- Whether a name can begin with the byte. -/
def startsName (b : UInt8) : Bool := Bytes.isNameByte b && !isDigit b

/-- The name at the beginning of a text; it may be empty. -/
def nameAt (text : Bytes) : Bytes :=
  if text.head?.any startsName then text.takeWhile Bytes.isNameByte else []

def isName (text : Bytes) : Bool := !text.isEmpty && nameAt text = text

/-- Whether a word sets a variable when it stands before a command. -/
def Word.isAssignment (word : Word) : Bool :=
  let isNamePiece (piece : Piece) : Bool :=
    match piece with
    | .byte b false => Bytes.isNameByte b
    | _ => false
  let name := (word.takeWhile isNamePiece).length
  match word.head?, word[name]? with
  | some (.byte first false), some (.byte 0x3d false) => startsName first
  | _, _ => false

/-- The parameter that stands for all arguments, each as a field of its own. -/
def Word.allArguments : Word := [.mark, .parameter (bytes "@") .value true, .mark]

end LineShell.Script
