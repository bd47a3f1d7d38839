import LineShell.Bytes
import LineShell.Pieces

/-!
# First lines of scripts

A script that begins with the mark `#!` names in its first line the program that runs it, and at
most one argument for that program: everything after the name, blanks included.
-/

namespace LineShell

/-- The program that runs a script, and an argument for it. -/
structure Interpreter where
  program : Bytes
  argument : Option Bytes
  deriving DecidableEq, Repr

namespace Interpreter

def mark : Bytes := bytes "#!"

/-- How much of a script is looked at. -/
def headSize : Nat := 256

def isBlank (b : UInt8) : Bool := b = 0x20 || b = 0x09

/-- The beginning of a script after the mark, filled up with NULs. -/
def head (script : Bytes) : Bytes :=
  ((script.take headSize) ++ List.replicate (headSize - script.length) Bytes.nul).drop mark.length

/-- The line at the beginning of some bytes. Without a newline they are the line, except for the
last of them, if they show where its first word ends. -/
def firstLine? (head : Bytes) : Option Bytes :=
  match cutAt Bytes.newline (head.takeWhile (· ≠ Bytes.nul)) with
  | some (line, _) => some line
  | none =>
    if (head.dropWhile isBlank).any fun b => isBlank b || b = Bytes.nul then some head.dropLast
    else none

/-- The interpreter that a line names. -/
def ofLine? (line : Bytes) : Option Interpreter :=
  match ((line.reverse.dropWhile isBlank).reverse).dropWhile isBlank with
  | [] => none
  | words =>
    let program := words.takeWhile fun b => !isBlank b && b ≠ Bytes.nul
    let rest := words.drop program.length
    let argument := (rest.dropWhile isBlank).takeWhile (· ≠ Bytes.nul)
    some ⟨program, if rest.head?.any isBlank then some argument else none⟩

/-- The interpreter that a script names. -/
def ofScript? (script : Bytes) : Option Interpreter :=
  if mark.isPrefixOf script then (firstLine? (head script)).bind ofLine? else none

/-- The arguments of the interpreter of a script that was called with some arguments. -/
def arguments (interpreter : Interpreter) (script : Bytes) (args : List Bytes) : List Bytes :=
  interpreter.program :: interpreter.argument.toList ++ script :: args.tail

end Interpreter

end LineShell
