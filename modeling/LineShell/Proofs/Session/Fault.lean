import LineShell.Host.Prepared
import LineShell.Proofs.Session.Effect
import LineShell.Store.Table

/-!
# Lines that fail

A line fails if one of its tokens cannot be expanded, if a built-in command or a launch returns an
error, or if the store rejects an assignment (`Session.Fails`). Whatever the fault is, the
variables and the working directory are as before (`runLine_of_fails`); what becomes of the status
and of the session depends on the fault alone (`Fault.verdict`).
-/

namespace LineShell

variable {σ κ ω : Type}

/-- How a line fails. -/
inductive Fault where
  | refused (cause : ParseError)
  | builtin (command : Standard) (cause : ShellError)
  | rejected (cause : Errno)
  | launched (command : Command) (cause : ShellError)
  deriving DecidableEq, Repr

namespace Fault

/-- The commands that have been launched when the line fails. -/
def launches : Fault → List Command
  | launched command _ => [command]
  | _ => []

/-- Only a child that could not be started ends the session. -/
def isFatal : Fault → Bool
  | launched _ (.fork _) => true
  | _ => false

/-- The text that tells of the fault. -/
def message : Fault → Text
  | refused cause => cause.message
  | builtin _ cause => cause.message
  | rejected cause => "variable assignment failed: ".toList ++ cause.desc
  | launched _ cause => cause.message

/-- What the fault means for the session, and the status after it. -/
def verdict (status : Int) : Fault → LineOutcome × Int
  | refused _ => (.proceed, 1)
  | builtin _ _ => (.proceed, 1)
  | rejected _ => (.proceed, status)
  | launched _ (.fork cause) => (.fatal (.fork cause), status)
  | launched _ _ => (.proceed, 1)

end Fault

theorem ShellError.isFatal_iff {cause : ShellError} :
    cause.isFatal ↔ ∃ errno, cause = .fork errno := by
  cases cause with
  | fork errno => exact ⟨fun _ => ⟨errno, rfl⟩, fun _ => rfl⟩
  | _ => exact ⟨nofun, nofun⟩

theorem Fault.isFatal_launched (command : Command) (cause : ShellError) :
    (launched command cause).isFatal = cause.isFatal := by
  cases cause <;> rfl

theorem Fault.verdict_launched {command : Command} {cause : ShellError} (status : Int)
    (h : cause.isFatal = false) : (launched command cause).verdict status = (.proceed, 1) := by
  cases cause with
  | fork errno => cases h
  | _ => rfl

theorem Shell.conclude_eq_fatal {shell : Shell σ κ ω} {status : Status} {cause : ShellError}
    (h : (shell.conclude status).1 = .fatal cause) : status = .error cause ∧ cause.isFatal := by
  unfold conclude at h
  split at h
  · cases h
  · cases h
  · cases h
  · split at h
    · rename_i hf
      cases h
      exact ⟨rfl, hf⟩
    · cases h

variable [Store σ]

namespace Session

/-- Performing the action ends in the fault. -/
inductive ActionFails (session : Session σ κ ω) (shell : Shell σ κ ω) : Action → Fault → Prop where
  | refused (cause : ParseError) : ActionFails session shell (.refuse cause) (.refused cause)
  | builtin {command : Standard} {args : List Bytes} {cause : ShellError} :
      ((command.builtin session.config).run session.host shell.system args shell.toScene).1 =
        .error cause →
      ActionFails session shell (.run command args) (.builtin command cause)
  | rejected {name value : Bytes} {cause : Errno} : value ≠ [] →
      Store.set shell.store name value = .error cause →
      ActionFails session shell (.assign name value) (.rejected cause)
  | launched {command : Command} {cause : ShellError} :
      (session.host.launch shell.system shell.dir command (Store.view shell.store)).status =
        .error cause →
      ActionFails session shell (.launch command) (.launched command cause)

/-- The line fails in this way. -/
def Fails (session : Session σ κ ω) (shell : Shell σ κ ω) (line : Bytes) (fault : Fault) : Prop :=
  session.ActionFails shell (session.action shell.store line) fault

section
variable {session : Session σ κ ω} {shell : Shell σ κ ω} {action : Action} {fault : Fault}

theorem launches_of_fails (h : session.ActionFails shell action fault) :
    action.launches = fault.launches := by
  cases h <;> rfl

/-- A built-in command that returns an error has changed nothing but the output. -/
theorem perform_run_of_error {command : Standard} {args : List Bytes} {cause : ShellError}
    (h : ((command.builtin session.config).run session.host shell.system args shell.toScene).1 =
      .error cause) :
    ∃ out, session.perform shell (.run command args) =
      (.proceed, Shell.fail { shell with out } cause.message) := by
  have hr := command.effect_run session.config session.host shell.system args shell.toScene
  rw [h] at hr
  obtain ⟨hf, out, hs⟩ := hr.of_error
  refine ⟨out, ?_⟩
  rw [perform_run]
  dsimp only
  rw [h, hs, Shell.conclude_fault _ hf]

theorem perform_assign_of_rejected {name value : Bytes} {cause : Errno} (hv : value ≠ [])
    (hs : Store.set shell.store name value = .error cause) :
    session.perform shell (.assign name value) =
      (.proceed, shell.report (Fault.rejected cause).message) := by
  have hv : ¬ value.isEmpty := by rwa [List.isEmpty_iff]
  dsimp only [perform, Scene.assign]
  rw [if_neg hv, hs]
  rfl

theorem perform_launch_of_error {command : Command} {cause : ShellError}
    (h : (session.host.launch shell.system shell.dir command (Store.view shell.store)).status =
      .error cause) :
    session.perform shell (.launch command) =
      let heard := shell.receive
        (session.host.launch shell.system shell.dir command (Store.view shell.store))
      if cause.isFatal then (.fatal cause, heard) else (.proceed, heard.fail cause.message) := by
  dsimp only [perform]
  rw [h]
  rfl

theorem perform_of_fails (h : session.ActionFails shell action fault) :
    (session.perform shell action).2.store = shell.store ∧
      (session.perform shell action).2.dir = shell.dir ∧
      ((session.perform shell action).1, (session.perform shell action).2.status) =
        fault.verdict shell.status := by
  cases h with
  | refused cause => exact ⟨rfl, rfl, rfl⟩
  | builtin he =>
    obtain ⟨out, hp⟩ := perform_run_of_error he
    rw [hp]
    exact ⟨rfl, rfl, rfl⟩
  | rejected hv hs =>
    rw [perform_assign_of_rejected hv hs]
    exact ⟨rfl, rfl, rfl⟩
  | @launched command cause he =>
    rw [perform_launch_of_error he]
    cases hf : cause.isFatal with
    | true =>
      obtain ⟨errno, rfl⟩ := ShellError.isFatal_iff.1 hf
      exact ⟨rfl, rfl, rfl⟩
    | false =>
      rw [Fault.verdict_launched shell.status hf]
      exact ⟨rfl, rfl, rfl⟩

theorem perform_eq_fatal {cause : ShellError}
    (h : (session.perform shell action).1 = .fatal cause) :
    ∃ command errno, cause = .fork errno ∧
      session.ActionFails shell action (.launched command cause) := by
  cases action with
  | refuse cause => cases h
  | nothing => cases h
  | run command args =>
    rw [perform_run] at h
    obtain ⟨he, hf⟩ := Shell.conclude_eq_fatal h
    have hr := command.effect_run session.config session.host shell.system args shell.toScene
    rw [he] at hr
    rw [hr.of_error.1] at hf
    cases hf
  | assign name value => cases h
  | launch command =>
    obtain ⟨he, hf⟩ := Shell.conclude_eq_fatal h
    obtain ⟨errno, hc⟩ := ShellError.isFatal_iff.1 hf
    exact ⟨command, errno, hc, .launched he⟩

end

/-- **A failing line leaves the shell as it was.** A line that fails changes neither a variable nor
the working directory, and launches a command only if that is what fails. It leaves the status 1,
except that a rejected assignment and a fatal error leave the one from before. Only a child that
could not be started is fatal. -/
theorem runLine_of_fails (session : Session σ κ ω) (shell : Shell σ (Recorded κ) ω)
    (line : Bytes) :
    (∀ fault, session.recording.Fails shell line fault →
      (session.recording.runLine shell line).2.store = shell.store ∧
      (session.recording.runLine shell line).2.dir = shell.dir ∧
      (session.recording.runLine shell line).2.system.calls =
        shell.system.calls ++ fault.launches ∧
      ((session.recording.runLine shell line).1,
        (session.recording.runLine shell line).2.status) = fault.verdict shell.status) ∧
    ∀ cause, (session.recording.runLine shell line).1 = .fatal cause →
      ∃ command errno, cause = .fork errno ∧
        session.recording.Fails shell line (.launched command cause) := by
  have ht := session.recording.runLine_eq_perform shell line
  constructor
  · intro fault h
    obtain ⟨hs, hd, hv⟩ := perform_of_fails h
    have hc := session.perform_calls shell (session.recording.action shell.store line)
    rw [launches_of_fails h] at hc
    rw [ht]
    exact ⟨hs, hd, hc, hv⟩
  · intro cause h
    rw [ht] at h
    exact perform_eq_fatal h

/-- A path that does not fit into the output, of which the beginning has been printed. -/
theorem runLine_of_fails_cut :
    let host : Host (Prepared Unit) Unit := Host.prepared
      { Host.idle with path := fun _ _ => .ok (bytes "/root") }
    let session : Session Table (Prepared Unit) Unit := ⟨host, {}⟩
    let shell : Shell Table (Recorded (Prepared Unit)) Unit :=
      ⟨⟨.empty, (), .ofLimit (some 3), .ofLimit none⟩, ⟨⟨(), [], []⟩, []⟩, 7⟩
    let fault := Fault.builtin .printDir (.io Sink.fullMessage)
    session.recording.Fails shell (bytes "pwd") fault ∧
      (session.recording.runLine shell (bytes "pwd")).2.out.accepted = bytes "/ro" ∧
      (session.recording.runLine shell (bytes "pwd")).2.store = shell.store ∧
      (session.recording.runLine shell (bytes "pwd")).2.system.calls = [] ∧
      ((session.recording.runLine shell (bytes "pwd")).1,
        (session.recording.runLine shell (bytes "pwd")).2.status) = (.proceed, 1) := by
  intro host session shell fault
  have ha : session.recording.action shell.store (bytes "pwd") = .run .printDir [] := by
    decide +kernel
  have hf : session.recording.Fails shell (bytes "pwd") fault := by
    unfold Fails
    rw [ha]
    exact .builtin rfl
  obtain ⟨hs, _, hc, hv⟩ := (session.runLine_of_fails shell (bytes "pwd")).1 fault hf
  exact ⟨hf, by decide +kernel, hs, hc, hv⟩

end Session

end LineShell
