import LineShell.Config
import LineShell.Host
import LineShell.Sink

/-!
# Built-in commands

A `Builtin` runs inside the shell, on its `Scene`: the variables, the working directory and the
two outputs. `Registry.dispatch` resolves a command: the built-in of that name registered last,
else an assignment if the command is a lone word NAME=VALUE, else nothing.
-/

namespace LineShell

/-- What a built-in command can change. -/
structure Scene (σ ω : Type) where
  store : σ
  dir : ω
  out : Sink
  err : Sink

/-- A command that runs inside the shell; it is given the words after its name. -/
structure Builtin (σ κ ω : Type) where
  name : Text
  run : Host κ ω → κ → List Bytes → Scene σ ω → Status × Scene σ ω

variable {σ κ ω : Type} [Store σ]

namespace Scene

/-- Writes all of the data to the output, or reports that there is no room for it. -/
def print (scene : Scene σ ω) (data : Bytes) : Status × Scene σ ω :=
  (if scene.out.fits data then .ok (.code 0) else .error (.io Sink.fullMessage),
    { scene with out := scene.out.write data })

/-- Writes a diagnostic; it is lost where there is no room for it. -/
def report (scene : Scene σ ω) (message : Text) : Scene σ ω :=
  { scene with err := scene.err.writeLine message }

/-- Gives a variable its value if that is not empty; a refusal is only reported. -/
def assign (scene : Scene σ ω) (name value : Bytes) : Scene σ ω :=
  if value.isEmpty then scene
  else
    match Store.set scene.store name value with
    | .ok store => { scene with store }
    | .error cause => scene.report ("variable assignment failed: ".toList ++ cause.desc)

end Scene

namespace Builtin

/-- Says farewell and ends the session; that the farewell is lost does not matter. -/
def exit (farewell : Text) : Builtin σ κ ω where
  name := "exit".toList
  run _ _ _ scene := (.ok .exit, { scene with out := scene.out.writeLine farewell })

def homeName : Bytes := bytes "HOME"

/-- Changes to the directory named first, or to the one in the variable HOME. -/
def changeDir : Builtin σ κ ω where
  name := "cd".toList
  run host system args scene :=
    match args.head? <|> Store.get scene.store homeName with
    | none => (.error .homeNotSet, scene)
    | some target =>
      match host.enter system scene.dir target with
      | .ok dir => (.ok (.code 0), { scene with dir })
      | .error cause => (.error (.changeDir (Text.lossy target) cause), scene)

/-- Prints the path of the working directory. -/
def printDir : Builtin σ κ ω where
  name := "pwd".toList
  run host system _ scene :=
    match host.path system scene.dir with
    | .ok path => scene.print (path ++ [Bytes.newline])
    | .error cause => (.error (.currentDir cause), scene)

/-- Prints the words with a space between neighbours. -/
def echo : Builtin σ κ ω where
  name := "echo".toList
  run _ _ args scene := scene.print (join Bytes.space args ++ [Bytes.newline])

/-- Sets the variable that the first word NAME=VALUE gives; neither part may be empty. -/
def exportVar : Builtin σ κ ω where
  name := "export".toList
  run _ _ args scene :=
    match args.head?.bind (cutAt Bytes.equals) with
    | none => (.error .exportMissing, scene)
    | some (name, value) =>
      if name.isEmpty || value.isEmpty then (.error .exportSyntax, scene)
      else
        match Store.set scene.store name value with
        | .ok store => (.ok (.code 0), { scene with store })
        | .error cause => (.error (.exportRejected cause), scene)

end Builtin

/-- The built-in commands, the one registered last first. -/
structure Registry (σ κ ω : Type) where
  commands : List (Builtin σ κ ω)

namespace Registry

def empty : Registry σ κ ω := ⟨[]⟩

/-- Adds a command; it replaces an earlier one of the same name. -/
def register (registry : Registry σ κ ω) (command : Builtin σ κ ω) : Registry σ κ ω :=
  ⟨command :: registry.commands⟩

/-- The command whose name has these bytes. -/
def find? (registry : Registry σ κ ω) (name : Bytes) : Option (Builtin σ κ ω) :=
  registry.commands.find? (·.name.utf8 = name)

/-- The commands that every shell has. -/
def standard (config : Config) : Registry σ κ ω :=
  [Builtin.exit config.farewell, .changeDir, .printDir, .echo, .exportVar].foldl register empty

/-- The name and the value in a word NAME=VALUE whose name is not empty. -/
def assignment? (word : Bytes) : Option (Bytes × Bytes) :=
  (cutAt Bytes.equals word).filter fun (name, _) => !name.isEmpty

/-- Runs a command inside the shell, if it is one that runs there. -/
def dispatch (registry : Registry σ κ ω) (host : Host κ ω) (system : κ) (words : List Bytes)
    (scene : Scene σ ω) : Option Status × Scene σ ω :=
  match words with
  | [] => (none, scene)
  | name :: args =>
    match registry.find? name with
    | some command =>
      let (status, scene) := command.run host system args scene
      (some status, scene)
    | none =>
      match args, assignment? name with
      | [], some (name, value) => (some (.ok .unchanged), scene.assign name value)
      | _, _ => (none, scene)

end Registry

end LineShell
