import LineShell.Launch.Descriptors
import LineShell.Launch.Plan

/-!
# The life of a child

A child binds its streams in the order of the redirections, and gives up at the first one that
fails. It then tries the programs of its plan: one that is missing or may not be executed leads on
to the next, one that is executable but in no known format is handed to the script runner, and
any other failure ends the search. What happens is said in terms of a `Kernel`, which makes
children, opens files, writes and executes.
-/

namespace LineShell

/-- For what a file is opened, and what is done with it first. -/
structure OpenFlags where
  reads : Bool
  writes : Bool
  /-- Makes the file if it is missing. -/
  creates : Bool
  /-- Empties the file. -/
  truncates : Bool
  deriving DecidableEq, Repr

/-- What the system is asked for to open a file; the mode is that of a file made for it. -/
structure OpenRequest where
  path : Bytes
  flags : OpenFlags
  mode : Nat
  deriving DecidableEq, Repr

def Stream.flags : Stream → OpenFlags
  | input => { reads := true, writes := false, creates := false, truncates := false }
  | output => { reads := false, writes := true, creates := true, truncates := true }
  | error => { reads := false, writes := true, creates := true, truncates := true }

/-- The mode with which a missing target is made: everyone may read it, its owner may write it. -/
def Redirection.targetMode : Nat := 0o644

def Redirection.request (redirection : Redirection) : OpenRequest where
  path := redirection.target
  flags := redirection.stream.flags
  mode := targetMode

/-- How a process ends. -/
inductive Ending where
  | exited (code : Nat)
  | killed (signal : Nat)
  deriving DecidableEq, Repr

/-- The status of a child that has ended so. -/
def Ending.status : Ending → Int
  | exited code => code
  | killed _ => 1

/-- A system with states `κ` and open files `φ`, as the shell sees it around a launch, and its
child during one. -/
structure Kernel (κ φ : Type) where
  /-- Makes a child, or refuses. -/
  fork : κ → Except Errno Unit × κ := fun system => (.ok (), system)
  /-- The refusals before the answer when the system is asked for a child that has ended so. -/
  waitErrors : κ → Ending → List Errno := fun _ _ => []
  /-- Opens a file for a process with these descriptors, or refuses. -/
  openFile : κ → Descriptors φ → OpenRequest → Except Errno φ × κ
  /-- The refusal to put the file at the first number at the second one as well, if it is one. -/
  dupError : κ → Nat → Nat → Option Errno := fun _ _ _ => none
  write : κ → φ → Bytes → κ
  /-- Runs a program with these descriptors, arguments and environment to its end, or refuses. -/
  execute : κ → Descriptors φ → Bytes → ArgVector → ArgVector → Except Errno Ending × κ

/-- A child before it has become another program. -/
structure Child (κ φ : Type) where
  system : κ
  table : Descriptors φ

namespace Child

variable {κ φ : Type}

/-- The exit code of a child whose streams could not be bound. -/
def redirectFailed : Nat := 1

/-- The exit code of a child whose program could not be executed. -/
def notFound : Nat := 127

/-- Writes to whatever the error stream is at the moment. -/
def complain (kernel : Kernel κ φ) (child : Child κ φ) (message : Bytes) : Child κ φ :=
  match child.table.at? Stream.error.descriptor with
  | some file => { child with system := kernel.write child.system file message }
  | none => child

/-- The diagnostic for a stream that cannot be bound: its target cannot be opened, or the opened
file cannot be put at the number of the stream. -/
def complaint (redirection : Redirection) (opened : Bool) (cause : Errno) : Bytes :=
  let reason := cause.desc.utf8 ++ [Bytes.newline]
  match redirection.stream, opened with
  | .input, _ => bytes "cannot access " ++ redirection.target ++ bytes ": " ++ reason
  | .output, false => redirection.target ++ bytes ": " ++ reason
  | .output, true => bytes "dup2 failed for stdout: " ++ reason
  | .error, _ => bytes "cannot create " ++ redirection.target ++ bytes ": " ++ reason

/-- The table after a new file, put at the lowest free number, has been moved to a stream. -/
def rebind (table : Descriptors φ) (stream : Stream) (file : φ) : Descriptors φ :=
  let number := table.lowestFree
  let opened := table.put number (some file)
  if number = stream.descriptor then opened
  else (opened.put stream.descriptor (some file)).put number none

/-- Binds one stream; a failure leaves the child with its diagnostic written. -/
def bind (kernel : Kernel κ φ) (child : Child κ φ) (redirection : Redirection) :
    Except (Child κ φ) (Child κ φ) :=
  match kernel.openFile child.system child.table redirection.request with
  | (.error cause, system) =>
    .error (complain kernel { child with system } (complaint redirection false cause))
  | (.ok file, system) =>
    let number := child.table.lowestFree
    match kernel.dupError system number redirection.stream.descriptor with
    | none => .ok ⟨system, rebind child.table redirection.stream file⟩
    | some cause =>
      -- the file is still where it was put first when the diagnostic is written
      let child := complain kernel ⟨system, child.table.put number (some file)⟩
        (complaint redirection true cause)
      .error { child with table := child.table.put number none }

/-- Binds the streams in order, up to the first failure. -/
def bindAll (kernel : Kernel κ φ) (child : Child κ φ) :
    List Redirection → Except (Child κ φ) (Child κ φ)
  | [] => .ok child
  | redirection :: rest =>
    match bind kernel child redirection with
    | .ok child => bindAll kernel child rest
    | .error child => .error child

/-- Whether a refusal to execute a program is a reason to try the next one. -/
def triesNext (cause : Errno) : Bool :=
  [Errno.accessDenied, .noEntry, .notDirectory, .staleHandle, .noDevice, .timedOut].contains cause

/-- Executes the first program that can be; the result is how it has ended, if there is one. -/
def search (kernel : Kernel κ φ) (child : Child κ φ) (plan : LaunchPlan) :
    List Bytes → Option Ending × Child κ φ
  | [] => (none, child)
  | program :: rest =>
    match kernel.execute child.system child.table program plan.argv plan.environment with
    | (.ok ending, system) => (some ending, { child with system })
    | (.error cause, system) =>
      if cause = .badFormat then
        let (result, system) := kernel.execute system child.table LaunchPlan.scriptRunner
          (plan.scriptArguments program) plan.environment
        (result.toOption, { child with system })
      else if triesNext cause then search kernel { child with system } plan rest
      else (none, { child with system })

/-- The whole life of a child: how it ends, and the system after it. -/
def live (kernel : Kernel κ φ) (child : Child κ φ) (plan : LaunchPlan) : Ending × κ :=
  match bindAll kernel child plan.bindings with
  | .error child => (.exited redirectFailed, child.system)
  | .ok child =>
    match search kernel child plan plan.programs with
    | (some ending, child) => (ending, child.system)
    | (none, child) =>
      let child := complain kernel child (plan.calledAs ++ bytes ": command not found\n")
      (.exited notFound, child.system)

end Child

end LineShell
