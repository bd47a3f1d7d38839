import LineShell.Errno
import LineShell.Text.Quoted

/-!
# What goes wrong

The causes for which a line or a configuration is refused. `message` is the text that the user
sees, without the newline. Only a failure to start a child ends the session (`isFatal`).
-/

namespace LineShell

/-- An expansion fails only when no memory can be reserved for its result. -/
inductive ExpansionError where
  | outOfMemory
  deriving DecidableEq, Repr

def ExpansionError.message : ExpansionError → Text
  | outOfMemory => "expansion failed".toList

/-- A line fails to parse only because one of its tokens cannot be expanded. -/
inductive ParseError where
  | expansion (cause : ExpansionError)
  deriving DecidableEq, Repr

namespace ParseError

def message : ParseError → Text
  | expansion cause => cause.message

/-- The message of the underlying cause. -/
def source : ParseError → Text
  | expansion cause => cause.message

end ParseError

/-- Why a command has failed inside the shell. -/
inductive ShellError where
  | changeDir (target : Text) (cause : Errno)
  | homeNotSet
  | currentDir (cause : Errno)
  | exportMissing
  | exportSyntax
  | exportRejected (cause : Errno)
  | invalidArgument (argument : Text)
  | fork (cause : Errno)
  | io (cause : Text)
  deriving DecidableEq, Repr

namespace ShellError

def message : ShellError → Text
  | changeDir target cause => "cd: ".toList ++ target ++ ": ".toList ++ cause.desc
  | homeNotSet => "cd: HOME not set".toList
  | currentDir cause => "pwd failed: ".toList ++ cause.desc
  | exportMissing => "export: missing or invalid argument".toList
  | exportSyntax => "export: invalid syntax".toList
  | exportRejected cause => "export failed: ".toList ++ cause.desc
  | invalidArgument argument => "invalid argument: ".toList ++ argument.quoted
  | fork cause => "fork failed: ".toList ++ cause.desc
  | io cause => "IO error: ".toList ++ cause

/-- Whether the error ends the session instead of the line. -/
def isFatal : ShellError → Bool
  | fork _ => true
  | _ => false

/-- The message of the underlying cause, for the errors that keep one. -/
def source : ShellError → Option Text
  | io cause => some cause
  | _ => none

end ShellError

/-- Why the bytes of a configuration could not be had. -/
inductive ReadFault where
  | system (cause : Errno)
  | nulInPath
  | notText
  deriving DecidableEq, Repr

/-- A system error is shown with its number. -/
def ReadFault.message : ReadFault → Text
  | system cause =>
    cause.systemText ++ " (os error ".toList ++ (toString cause.number).toList ++ [')']
  | nulInPath => "file name contained an unexpected NUL byte".toList
  | notText => "stream did not contain valid UTF-8".toList

/-- What is wrong with a line of a configuration. -/
inductive LineFault where
  | noEquals (line : Text)
  | unknownKey (key : Text)
  | invalidLimit (line : Text)
  deriving DecidableEq, Repr

def LineFault.message : LineFault → Text
  | noEquals line => "No '=' found: ".toList ++ line
  | unknownKey key => "Unknown key: ".toList ++ key
  | invalidLimit line => "Invalid limit: ".toList ++ line

/-- Why a configuration is refused; lines are numbered from one. -/
inductive ConfigError where
  | unreadable (fault : ReadFault)
  | malformed (number : Nat) (fault : LineFault)
  deriving DecidableEq, Repr

namespace ConfigError

/-- The message of an unreadable configuration, from what went wrong. -/
def readingMessage (detail : Text) : Text := "IO error: ".toList ++ detail

/-- The message of a malformed configuration, from what went wrong. -/
def parsingMessage (detail : Text) : Text := "Parse error: ".toList ++ detail

def message : ConfigError → Text
  | unreadable fault => readingMessage fault.message
  | malformed number fault =>
    parsingMessage ("Line ".toList ++ (toString number).toList ++ ": ".toList ++ fault.message)

end ConfigError

end LineShell
