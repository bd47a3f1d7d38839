import LineShell.Machine.Utility.Cat
import LineShell.Machine.Utility.Count
import LineShell.Machine.Utility.Directories
import LineShell.Machine.Utility.More
import LineShell.Machine.Utility.Surroundings
import LineShell.Machine.Utility.Touch

/-!
# The programs of a machine

`Utility.run` runs the small programs of a machine. Each is given its process and ends with an exit
code. The shell, which runs scripts, is no small program.
-/

namespace LineShell.Utility

/-- What a small program does. -/
def task (utility : Utility) (process : Process) : Task Nat :=
  match utility with
  | shell => return 127
  | success => return 0
  | failure => return 1
  | cat => runCat process
  | echo => runEcho process
  | printenv => runPrintenv process
  | mkdir => runMkdir process
  | rmdir => runRmdir process
  | pwd => runPwd process
  | wc => runWc process
  | touch => runTouch process
  | more => runMore process

/-- Runs a small program. -/
def run (utility : Utility) (process : Process) : StateM Machine Nat :=
  finish process (utility.task process)

end LineShell.Utility
