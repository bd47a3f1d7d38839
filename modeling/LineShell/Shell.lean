import LineShell.Builtin
import LineShell.Input
import LineShell.Token

/-!
# The shell

A `Shell` is the state between two lines. `Session.runLine` runs one line: the line is taken apart
and expanded, a command without redirections is offered to the built-ins, and any other command is
launched by the host. `Session.run` does so for all lines of an input, with a prompt before each,
until the input ends, a command asks to exit, or an error is fatal.
-/

namespace LineShell

/-- The scene of the built-ins, the system around it, and the status of the last command that had
one. -/
structure Shell (σ κ ω : Type) extends Scene σ ω where
  system : κ
  status : Int := 0

/-- What a line means for the session. -/
inductive LineOutcome where
  | proceed
  | exit
  | fatal (cause : ShellError)
  deriving DecidableEq, Repr

/-- What does not change during a session. -/
structure Session (σ κ ω : Type) where
  host : Host κ ω
  config : Config := {}

variable {σ κ ω : Type} [Store σ]

namespace Shell

def report (shell : Shell σ κ ω) (message : Text) : Shell σ κ ω :=
  { shell with toScene := shell.toScene.report message }

/-- Reports an error that the session survives. -/
def fail (shell : Shell σ κ ω) (message : Text) : Shell σ κ ω :=
  { shell.report message with status := 1 }

/-- Records how a command has ended. -/
def conclude (shell : Shell σ κ ω) : Status → LineOutcome × Shell σ κ ω
  | .ok (.code status) => (.proceed, { shell with status })
  | .ok .unchanged => (.proceed, shell)
  | .ok .exit => (.exit, shell)
  | .error cause =>
    if cause.isFatal then (.fatal cause, shell) else (.proceed, shell.fail cause.message)

/-- The shell after a launch, except for the status of the command. -/
def receive (shell : Shell σ κ ω) (reply : Reply κ) : Shell σ κ ω :=
  { shell with
    system := reply.system
    out := shell.out.write reply.out
    err := shell.err.write reply.err }

end Shell

namespace Session

def limits (session : Session σ κ ω) : ExpansionLimits :=
  ⟨session.config.expandCapacity, session.config.varNameMax, session.host.grants⟩

/-- The command of a line, in a shell with these variables. -/
def parse (session : Session σ κ ω) (store : σ) (line : Bytes) : Except ParseError Command :=
  Command.ofTokens? session.limits (Store.get store) (tokenize session.config.maxTokens line)

/-- Offers a command to the built-ins. A redirection is not for them, whatever the name is. -/
def handle (session : Session σ κ ω) (shell : Shell σ κ ω) (command : Command) :
    Option Status × Scene σ ω :=
  if command.redirections.isEmpty then
    (Registry.standard session.config).dispatch session.host shell.system command.texts
      shell.toScene
  else (none, shell.toScene)

/-- Runs a command that has a name. -/
def runCommand (session : Session σ κ ω) (shell : Shell σ κ ω) (command : Command) :
    LineOutcome × Shell σ κ ω :=
  match session.handle shell command with
  | (some status, scene) => { shell with toScene := scene }.conclude status
  | (none, _) =>
    let reply := session.host.launch shell.system shell.dir command (Store.view shell.store)
    (shell.receive reply).conclude reply.status

/-- Runs one line. A line without words does nothing, even if it has redirections. -/
def runLine (session : Session σ κ ω) (shell : Shell σ κ ω) (line : Bytes) :
    LineOutcome × Shell σ κ ω :=
  match session.parse shell.store line with
  | .error cause => (.proceed, shell.fail cause.message)
  | .ok command =>
    if command.isEmpty then (.proceed, shell) else session.runCommand shell command

/-- Writes the prompt; it is lost where there is no room for it. -/
def prompt (session : Session σ κ ω) (shell : Shell σ κ ω) : Shell σ κ ω :=
  { shell with out := shell.out.write session.config.prompt.utf8 }

/-- Runs a line that has been read; an empty one does nothing. The result has the status with which
the whole session ends, if it does. -/
def advance (session : Session σ κ ω) (shell : Shell σ κ ω) (line : Bytes) :
    Option Int × Shell σ κ ω :=
  if line.isEmpty then (none, shell)
  else
    match session.runLine shell line with
    | (.proceed, shell) => (none, shell)
    | (.exit, shell) => (some shell.status, shell)
    | (.fatal cause, shell) => (some 1, shell.report cause.message)

/-- Reads lines into the buffer and runs them. The result is the status with which the whole
session ends, and the shell at its end. -/
def run (session : Session σ κ ω) (shell : Shell σ κ ω) (input : Input) (buffer : Bytes) :
    Int × Shell σ κ ω :=
  let shell := session.prompt shell
  match _h : input.readLine buffer with
  | (.line, line, rest) =>
    match session.advance shell line with
    | (none, shell) => session.run shell rest line
    | (some status, shell) => (status, shell)
  | (.finished, _, _) => (shell.status, shell)
  | (.failed, _, _) => (shell.status, shell)
termination_by input.remaining
decreasing_by
  all_goals exact Input.remaining_lt_of_readLine_eq_line _h

end Session

end LineShell
