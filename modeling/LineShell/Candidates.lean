import LineShell.Bytes
import LineShell.Pieces

/-!
# Where a program may be

A command with a slash names its program. Any other is looked for in the directories of the
variable PATH, in order; an empty entry of it is the working directory.
-/

namespace LineShell.Candidates

def pathName : Bytes := bytes "PATH"

/-- The directories searched if PATH is not set. -/
def defaultPath : Bytes := bytes "/bin:/usr/bin"

/-- The path of the command in a directory; no second slash follows one at its end. -/
def inDirectory (command directory : Bytes) : Bytes :=
  if directory.isEmpty then bytes "./" ++ command
  else if directory.getLast? = some Bytes.slash then directory ++ command
  else directory ++ Bytes.slash :: command

/-- The paths at which the program of a command may be, in the order in which they are tried. -/
def ofCommand (lookup : Bytes → Option Bytes) (command : Bytes) : List Bytes :=
  if command.isEmpty then []
  else if command.contains Bytes.slash then [command]
  else (split Bytes.colon ((lookup pathName).getD defaultPath)).map (inDirectory command)

end LineShell.Candidates
