import LineShell.Candidates
import LineShell.Command
import LineShell.Store
import LineShell.Text.Utf8

/-!
# Launch plans

A `LaunchPlan` has all that a child needs, ready before the child exists: the programs to try,
the argument vectors, the environment and the redirections. `LaunchPlan.prepare` refuses a command
with a NUL in a word or a target, because the system could not be given it.
-/

namespace LineShell

/-- Strings as the system takes them: one slot each, and an empty slot after the last. -/
abbrev ArgVector := List (Option Bytes)

namespace ArgVector

def ofList (strings : List Bytes) : ArgVector := strings.map some ++ [none]

/-- The strings before the first empty slot. -/
def read : ArgVector → List Bytes
  | some string :: rest => string :: read rest
  | _ => []

@[simp] theorem read_ofList (strings : List Bytes) : read (ofList strings) = strings := by
  induction strings with
  | nil => rfl
  | cons string rest ih => simpa [ofList, read] using ih

end ArgVector

/-- What a child does: bind its streams, then become the first program that can be executed. -/
structure LaunchPlan where
  programs : List Bytes
  argv : ArgVector
  /-- The arguments of the script runner; the slot after its name is for the script. -/
  scriptArgv : ArgVector
  environment : ArgVector
  bindings : List Redirection
  deriving DecidableEq, Repr

namespace LaunchPlan

/-- The program that runs a file which is executable but no program of its own. -/
def scriptRunner : Bytes := bytes "/bin/sh"

/-- The argument vector of the script runner for a command, with no script in it yet. -/
def scriptVector (argv : ArgVector) : ArgVector := some scriptRunner :: none :: argv.tail

/-- The argument vector of the script runner for this script. -/
def scriptArguments (plan : LaunchPlan) (script : Bytes) : ArgVector :=
  plan.scriptArgv.set 1 (some script)

/-- The name by which a command was called. -/
def calledAs (plan : LaunchPlan) : Bytes := plan.argv.read.head?.getD []

/-- The first of the texts that holds a NUL. -/
def firstWithNul (texts : List Bytes) : Option Bytes := texts.find? (·.hasNul)

/-- The plan for a command; words are looked at before targets. -/
def prepare (command : Command) (view : View) : Except ShellError LaunchPlan :=
  match firstWithNul command.texts <|> firstWithNul (command.redirections.map (·.target)) with
  | some text => .error (.invalidArgument (Text.lossy text))
  | none =>
    let argv := ArgVector.ofList command.texts
    let candidates := (command.name?.map (Candidates.ofCommand view.get)).getD []
    .ok {
      programs := candidates.filter (!·.hasNul)
      argv
      scriptArgv := scriptVector argv
      environment := ArgVector.ofList view.snapshot
      bindings := command.redirections }

end LaunchPlan

end LineShell
