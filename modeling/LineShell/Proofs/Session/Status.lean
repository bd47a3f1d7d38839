import LineShell.Host.Prepared
import LineShell.Proofs.Session.Console
import LineShell.Proofs.Session.History

/-!
# The status of a session

`Session.Records` says which status a line records, if any. The status of the shell is the one that
the last line to record any has recorded, and zero in a new shell in which no line has
(`status_latest`). If the host gives none but exit codes to the commands launched, the status is
always an exit code, and so is the value with which a session ends; the program, if it ends, then
ends with exactly that code.
-/

namespace LineShell

variable {σ κ ω : Type}

/-- Whether a process can end with the status as its exit code. -/
def IsExitCode (status : Int) : Prop := 0 ≤ status ∧ status < 256

instance (status : Int) : Decidable (IsExitCode status) := inferInstanceAs (Decidable (_ ∧ _))

theorem Cli.exitCode_eq {status : Int} (h : IsExitCode status) :
    (exitCode status : Int) = status := by
  unfold exitCode
  rw [if_pos (by simpa [IsExitCode] using h)]
  exact Int.toNat_of_nonneg h.1

/-! ## Hosts that return exit codes -/

theorem Prepared.answer_mem (answers : List Status) (count : Nat) :
    answer answers count ∈ answers ∨ answer answers count = .ok (.code 0) := by
  unfold answer
  cases hc : answers[count]? with
  | some status => exact .inl (List.mem_of_getElem? hc)
  | none =>
    cases hl : answers.getLast? with
    | some status => exact .inl (List.mem_of_getLast? hl)
    | none => exact .inr rfl

namespace Host

/-- From this system on, every code that a launch returns is an exit code. -/
def ReturnsExitCodes (host : Host κ ω) (others : κ → κ → Prop) (system : κ) : Prop :=
  ∀ last, host.Reaches others system last → ∀ dir command view code,
    (host.launch last dir command view).status = .ok (.code code) → IsExitCode code

/-- Nobody else uses the system. -/
def Alone (_ _ : κ) : Prop := False

namespace ReturnsExitCodes

variable {host : Host κ ω} {others : κ → κ → Prop} {system next : κ}

theorem launch (h : host.ReturnsExitCodes others system) (dir : ω) (command : Command)
    (view : View) :
    host.ReturnsExitCodes others (host.launch system dir command view).system :=
  fun last hr => h last (.launch dir command view hr)

theorem used (h : host.ReturnsExitCodes others system) (ho : others system next) :
    host.ReturnsExitCodes others next :=
  fun last hr => h last (.used ho hr)

end ReturnsExitCodes

theorem prepared_answers (host : Host κ ω) {system last : Prepared κ}
    (h : host.prepared.Reaches Alone system last) : last.answers = system.answers := by
  induction h with
  | refl system => rfl
  | launch dir command view _ ih => exact ih
  | used ho _ _ => exact ho.elim

/-- With prepared answers the codes are those prepared. -/
theorem returnsExitCodes_prepared (host : Host κ ω) {system : Prepared κ}
    (h : ∀ code, .ok (.code code) ∈ system.answers → IsExitCode code) :
    host.prepared.ReturnsExitCodes Alone system := by
  intro last hr dir command view code hc
  have ha : Prepared.answer system.answers last.calls.length = .ok (.code code) := by
    rw [← host.prepared_answers hr]
    exact hc
  rcases Prepared.answer_mem system.answers last.calls.length with hm | hd
  · exact h code (ha ▸ hm)
  · cases ha.symm.trans hd
    decide

end Host

namespace Session

/-- The status is an exit code, and so is every code that is still to be returned. -/
structure KeepsExitCodes (session : Session σ κ ω) (others : κ → κ → Prop) (shell : Shell σ κ ω) :
    Prop where
  returns : session.host.ReturnsExitCodes others shell.system
  status : IsExitCode shell.status

namespace KeepsExitCodes

variable {session : Session σ κ ω} {others : κ → κ → Prop} {shell : Shell σ κ ω}

theorem used (h : session.KeepsExitCodes others shell) {system : κ}
    (ho : others shell.system system) : session.KeepsExitCodes others { shell with system } :=
  ⟨h.returns.used ho, h.status⟩

theorem prompt (h : session.KeepsExitCodes others shell) :
    session.KeepsExitCodes others (session.prompt shell) :=
  ⟨h.returns, h.status⟩

end KeepsExitCodes

end Session

/-! ## The status that a line records -/

namespace Shell

theorem conclude_status (shell : Shell σ κ ω) (status : Status) :
    (shell.conclude status).2.status = (Mark.ofStatus status).code.getD shell.status := by
  rw [conclude_eq_leave]
  rfl

end Shell

variable [Store σ]

namespace Session

/-- The status that the action, performed in this shell, records, or that it records none. -/
inductive ActionRecords (session : Session σ κ ω) (shell : Shell σ κ ω) :
    Action → Option Int → Prop where
  | refused (cause : ParseError) : ActionRecords session shell (.refuse cause) (some 1)
  | blank : ActionRecords session shell .nothing none
  | assigned (name value : Bytes) : ActionRecords session shell (.assign name value) none
  | left (args : List Bytes) : ActionRecords session shell (.run .exit args) none
  | succeeded {command : Standard} {args : List Bytes} {outcome : Outcome} : command ≠ .exit →
      ((command.builtin session.config).run session.host shell.system args shell.toScene).1 =
        .ok outcome → ActionRecords session shell (.run command args) (some 0)
  | failed {command : Standard} {args : List Bytes} {cause : ShellError} :
      ((command.builtin session.config).run session.host shell.system args shell.toScene).1 =
        .error cause → cause.isFatal = false →
      ActionRecords session shell (.run command args) (some 1)
  | returned {command : Command} {code : Int} :
      (session.host.launch shell.system shell.dir command (Store.view shell.store)).status =
        .ok (.code code) → ActionRecords session shell (.launch command) (some code)
  | unchanged {command : Command} :
      (session.host.launch shell.system shell.dir command (Store.view shell.store)).status =
        .ok .unchanged → ActionRecords session shell (.launch command) none
  | ended {command : Command} :
      (session.host.launch shell.system shell.dir command (Store.view shell.store)).status =
        .ok .exit → ActionRecords session shell (.launch command) none
  | launchFailed {command : Command} {cause : ShellError} :
      (session.host.launch shell.system shell.dir command (Store.view shell.store)).status =
        .error cause → cause.isFatal = false →
      ActionRecords session shell (.launch command) (some 1)
  | fatal {command : Command} {cause : ShellError} :
      (session.host.launch shell.system shell.dir command (Store.view shell.store)).status =
        .error cause → cause.isFatal →
      ActionRecords session shell (.launch command) none

/-- The status that the line, run in this shell, records, or that it records none. -/
def Records (session : Session σ κ ω) (shell : Shell σ κ ω) (line : Bytes)
    (recorded : Option Int) : Prop :=
  session.ActionRecords shell (session.action shell.store line) recorded

/-- What the action records, computed. -/
def record (session : Session σ κ ω) (shell : Shell σ κ ω) : Action → Option Int
  | .refuse _ => some 1
  | .nothing => none
  | .assign _ _ => none
  | .run command args =>
    (Mark.ofStatus ((command.builtin session.config).run session.host shell.system args
      shell.toScene).1).code
  | .launch command =>
    (Mark.ofStatus
      (session.host.launch shell.system shell.dir command (Store.view shell.store)).status).code

theorem perform_status (session : Session σ κ ω) (shell : Shell σ κ ω) (action : Action) :
    (session.perform shell action).2.status = (session.record shell action).getD shell.status := by
  cases action with
  | refuse cause => rfl
  | nothing => rfl
  | run command args =>
    rw [perform_run, Shell.conclude_status]
    rfl
  | assign name value => rfl
  | launch command =>
    dsimp only [perform]
    rw [Shell.conclude_status]
    rfl

theorem actionRecords_record (session : Session σ κ ω) (shell : Shell σ κ ω) (action : Action) :
    session.ActionRecords shell action (session.record shell action) := by
  cases action with
  | refuse cause => exact .refused cause
  | nothing => exact .blank
  | run command args =>
    by_cases hc : command = .exit
    · subst hc
      exact .left args
    · have he := command.effect_run session.config session.host shell.system args shell.toScene
      dsimp only [record]
      cases hs : ((command.builtin session.config).run session.host shell.system args
        shell.toScene).1 with
      | ok outcome =>
        rw [hs] at he
        cases he.of_ok hc
        exact .succeeded hc hs
      | error cause =>
        rw [hs] at he
        dsimp only [Mark.ofStatus]
        rw [he.of_error.1]
        exact .failed hs he.of_error.1
  | assign name value => exact .assigned name value
  | launch command =>
    dsimp only [record]
    cases hs : (session.host.launch shell.system shell.dir command
      (Store.view shell.store)).status with
    | ok outcome =>
      cases outcome with
      | code code => exact .returned hs
      | unchanged => exact .unchanged hs
      | exit => exact .ended hs
    | error cause =>
      dsimp only [Mark.ofStatus]
      cases hf : cause.isFatal with
      | false => exact .launchFailed hs hf
      | true => exact .fatal hs hf

theorem actionRecords_iff {session : Session σ κ ω} {shell : Shell σ κ ω} {action : Action}
    {recorded : Option Int} :
    session.ActionRecords shell action recorded ↔ recorded = session.record shell action := by
  constructor
  · intro h
    cases h with
    | refused cause => rfl
    | blank => rfl
    | assigned name value => rfl
    | left args => rfl
    | @succeeded command args _ hc hs =>
      have he := command.effect_run session.config session.host shell.system args shell.toScene
      rw [hs] at he
      dsimp only [record]
      rw [hs, he.of_ok hc]
      rfl
    | failed hs hf => simp [record, hs, Mark.ofStatus, hf, Mark.fault]
    | returned hs => simp [record, hs, Mark.ofStatus]
    | unchanged hs => simp [record, hs, Mark.ofStatus]
    | ended hs => simp [record, hs, Mark.ofStatus]
    | launchFailed hs hf => simp [record, hs, Mark.ofStatus, hf, Mark.fault]
    | fatal hs hf => simp [record, hs, Mark.ofStatus, hf]
  · rintro rfl
    exact session.actionRecords_record shell action

theorem runLine_status (session : Session σ κ ω) (shell : Shell σ κ ω) (line : Bytes) :
    (∃ code, session.Records shell line (some code) ∧
        (session.runLine shell line).2.status = code) ∨
      (∀ code, ¬ session.Records shell line (some code)) ∧
        (session.runLine shell line).2.status = shell.status := by
  unfold Records
  rw [runLine_eq_perform, perform_status]
  simp only [actionRecords_iff]
  cases session.record shell (session.action shell.store line) with
  | some code => exact .inl ⟨code, rfl, rfl⟩
  | none => exact .inr ⟨nofun, rfl⟩

/-- The line at position `i` records the status. -/
def RecordsAt (session : Session σ κ ω) (shell : Shell σ κ ω) (lines : List Bytes) (i : Nat)
    (code : Int) : Prop :=
  session.At shell lines i fun now line => session.Records now line (some code)

/-- The last of the lines to record any status records this one. -/
def LastRecords (session : Session σ κ ω) (shell : Shell σ κ ω) (lines : List Bytes)
    (code : Int) : Prop :=
  ∃ i, session.RecordsAt shell lines i code ∧
    ∀ j, i < j → ∀ other, ¬ session.RecordsAt shell lines j other

theorem status_after (session : Session σ κ ω) (shell : Shell σ κ ω) (lines : List Bytes) :
    (∃ code, session.LastRecords shell lines code ∧ (session.after shell lines).status = code) ∨
      (∀ i code, ¬ session.RecordsAt shell lines i code) ∧
        (session.after shell lines).status = shell.status :=
  session.latest_after (fun now line code => session.Records now line (some code))
    (fun now => now.status) id session.runLine_status shell lines

/-! ## Exit codes -/

namespace KeepsExitCodes

variable {session : Session σ κ ω} {others : κ → κ → Prop} {shell : Shell σ κ ω}

theorem runLine (h : session.KeepsExitCodes others shell) (line : Bytes) :
    session.KeepsExitCodes others (session.runLine shell line).2 where
  returns := by
    rw [runLine_eq_perform]
    rcases session.perform_system shell (session.action shell.store line) with
      ⟨_, hs⟩ | ⟨command, _, hs⟩
    · rw [hs]
      exact h.returns
    · rw [hs]
      exact h.returns.launch _ _ _
  status := by
    rcases session.runLine_status shell line with ⟨code, hr, hs⟩ | ⟨_, hs⟩
    · rw [hs]
      unfold Records at hr
      generalize session.action shell.store line = action at hr
      cases hr with
      | refused cause => decide
      | succeeded _ _ => decide
      | failed _ _ => decide
      | returned hc => exact h.returns _ (.refl _) _ _ _ _ hc
      | launchFailed _ _ => decide
    · rw [hs]
      exact h.status

theorem after (h : session.KeepsExitCodes others shell) (lines : List Bytes) :
    session.KeepsExitCodes others (session.after shell lines) := by
  induction lines generalizing shell with
  | nil => exact h
  | cons line rest ih => exact ih (h.runLine line)

theorem advance (h : session.KeepsExitCodes others shell) (line : Bytes) :
    session.KeepsExitCodes others (session.advance shell line).2 ∧
      ∀ status ∈ (session.advance shell line).1, IsExitCode status := by
  have hn := h.runLine line
  rw [advance_eq]
  generalize session.runLine shell line = turn at hn
  obtain ⟨outcome, next⟩ := turn
  cases outcome with
  | proceed => exact ⟨hn, nofun⟩
  | exit => exact ⟨hn, fun _ hs => Option.some.inj hs ▸ hn.status⟩
  | fatal cause => exact ⟨⟨hn.returns, hn.status⟩, fun _ hs => Option.some.inj hs ▸ by decide⟩

theorem iterate (h : session.KeepsExitCodes others shell) (lines : List Bytes) :
    IsExitCode (session.iterate shell lines).1 ∧
      IsExitCode (session.iterate shell lines).2.status := by
  induction lines generalizing shell with
  | nil => exact ⟨h.status, h.status⟩
  | cons line rest ih =>
    have ha := h.prompt.advance line
    rw [iterate_cons]
    generalize session.advance (session.prompt shell) line = turn at ha
    obtain ⟨ended, next⟩ := turn
    cases ended with
    | none => exact ih ha.1
    | some status => exact ⟨ha.2 status rfl, ha.1.status⟩

end KeepsExitCodes

end Session

/-! ## The program -/

namespace Cli

/-- The program ends with the exit code for the status with which its shell does. -/
theorem exitCode_run {host : Host Machine Nat} {machine : Machine} {dir : Nat} {store : Entries}
    {ended : Int × Shell Entries Machine Nat}
    (h : runShell host machine dir store = some ended) :
    ∃ result, run host machine dir store = some result ∧ result.exitCode = exitCode ended.1 := by
  unfold run
  rw [h]
  exact ⟨_, rfl, rfl⟩

end Cli

namespace Session

theorem KeepsExitCodes.runConsole {session : Session Entries Machine Nat}
    {shell : Shell Entries Machine Nat} {input : Input} {buffer : Bytes}
    {ended : Int × Shell Entries Machine Nat} (h : session.KeepsExitCodes Cli.Consumes shell)
    (he : session.runConsole shell input buffer = some ended) : IsExitCode ended.1 := by
  revert h
  refine runConsole.partial_correctness session
    (fun shell _ _ ended => session.KeepsExitCodes Cli.Consumes shell → IsExitCode ended.1)
    (fun next ih shell input buffer ended he h => ?_) shell input buffer ended he
  rcases hr : Cli.readLine (session.prompt shell).system input buffer with
    ⟨outcome, line, rest, system⟩
  dsimp only at he
  rw [hr] at he
  dsimp only at he
  split at he
  · cases he
    exact h.status
  · have ha := (h.prompt.used (Cli.consumes_readLine hr)).advance line
    generalize session.advance _ line = turn at he ha
    obtain ⟨_ | status, last⟩ := turn
    · exact ih last rest line ended he ha.1
    · cases he
      exact ha.2 status rfl

/-- **The status is the one recorded last.** After any lines the status of a new shell is the one
that the last line to record any has recorded, or zero; what a line records is settled. If every
code that the host returns is an exit code, then so is the status after any lines, and so is the
value with which a session ends. A program that ends then has this value as its exit code, and it
ends if no command adds to its input. -/
theorem status_latest (session : Session σ κ ω) (scene : Scene σ ω) (system : κ) :
    let shell : Shell σ κ ω := { toScene := scene, system }
    (∀ lines,
      (∃ code, session.LastRecords shell lines code ∧
          (session.after shell lines).status = code) ∨
        (∀ i code, ¬ session.RecordsAt shell lines i code) ∧
          (session.after shell lines).status = 0) ∧
    (∀ now line, ∃ recorded, ∀ other, session.Records now line other ↔ other = recorded) ∧
    (session.host.ReturnsExitCodes Host.Alone system →
      (∀ lines, IsExitCode (session.after shell lines).status) ∧
      ∀ input buffer,
        let ended := session.run shell input buffer
        IsExitCode ended.2.status ∧ IsExitCode ended.1 ∧
          (Cli.exitCode ended.1 : Int) = ended.1) ∧
    ∀ host machine dir store, host.ReturnsExitCodes Cli.Consumes machine →
      (∀ ended, Cli.runShell host machine dir store = some ended → IsExitCode ended.1 ∧
        ∃ result, Cli.run host machine dir store = some result ∧
          (result.exitCode : Int) = ended.1) ∧
      (host.SparesConsole machine →
        ∃ ended, Cli.runShell host machine dir store = some ended) := by
  intro shell
  refine ⟨session.status_after shell, fun now line => ⟨_, fun other => actionRecords_iff⟩,
    fun h => ?_, fun host machine dir store h => ⟨fun ended he => ?_, fun hs => ?_⟩⟩
  · have hk : session.KeepsExitCodes Host.Alone shell := ⟨h, (by decide : IsExitCode 0)⟩
    refine ⟨fun lines => (hk.after lines).status, fun input buffer => ?_⟩
    obtain ⟨hv, hs⟩ := hk.iterate input.lines
    dsimp only
    rw [run_eq_iterate]
    exact ⟨hs, hv, Cli.exitCode_eq hv⟩
  · have hk : KeepsExitCodes ⟨host, (Cli.loadConfig machine dir store).1⟩ Cli.Consumes
        ⟨⟨store, dir, .ofLimit none, (Cli.loadConfig machine dir store).2⟩, machine, 0⟩ :=
      ⟨h, (by decide : IsExitCode 0)⟩
    have hv : IsExitCode ended.1 := hk.runConsole he
    obtain ⟨result, hr, hc⟩ := Cli.exitCode_run he
    exact ⟨hv, result, hr, hc ▸ Cli.exitCode_eq hv⟩
  · exact runConsole_ends hs _ []

/-- A built-in command that fails, a launch with a code, lines that record nothing, one of which
launches, and a launch that ends the session. A console with one line. -/
theorem status_latest_fork :
    let host : Host (Prepared Unit) Unit := Host.idle.prepared
    let session : Session Table (Prepared Unit) Unit := ⟨host, {}⟩
    let scene : Scene Table Unit := ⟨.empty, (), .ofLimit none, .ofLimit none⟩
    let system : Prepared Unit := ⟨(), [.ok (.code 3), .ok .unchanged, .error (.fork ⟨11⟩)], []⟩
    let shell : Shell Table (Prepared Unit) Unit := { toScene := scene, system }
    let input : Input := ⟨bytes "export\nls\nA=\n> f\nexit > f\nls\nexit", [], 8, by decide, false⟩
    let console : Host Machine Nat :=
      { Host.idle with launch := fun system _ _ _ => { status := .ok (.code 255), system } }
    let machine : Machine := {
      tree := ⟨#[.directory [] 0 0o755, .file (bytes "ls\n") 0o600]⟩
      opened := #[{ node := 1, reads := true }] }
    (host.ReturnsExitCodes Host.Alone system ∧ console.ReturnsExitCodes Cli.Consumes machine ∧
      console.SparesConsole machine) ∧
      session.LastRecords shell input.lines 3 ∧ (session.after shell input.lines).status = 3 ∧
      (session.run shell input []).1 = 1 ∧ Cli.exitCode (session.run shell input []).1 = 1 ∧
      ∃ ended result, Cli.runShell console machine 0 .empty = some ended ∧
        IsExitCode ended.1 ∧ Cli.run console machine 0 .empty = some result ∧
        (result.exitCode : Int) = ended.1 := by
  intro host session scene system shell input console machine
  have hh : host.ReturnsExitCodes Host.Alone system := by
    refine Host.returnsExitCodes_prepared _ fun code hm => ?_
    have hcode : code = 3 := by simpa [system] using hm
    rw [hcode]
    decide
  have hc : console.ReturnsExitCodes Cli.Consumes machine := by
    rintro last _ dir command view code ⟨⟩
    decide
  have hp : console.SparesConsole machine := fun last _ dir command view => Nat.le_refl _
  obtain ⟨hlast, _, hrange, hprogram⟩ := session.status_latest scene system
  have hs : (session.after shell input.lines).status = 3 := by decide +kernel
  have hv : (session.run shell input []).1 = 1 := by
    rw [run_eq_iterate]
    decide +kernel
  have hl : session.LastRecords shell input.lines 3 := by
    rcases hlast input.lines with ⟨code, hl, hcode⟩ | ⟨_, hz⟩
    · rw [hs] at hcode
      rwa [hcode]
    · rw [hs] at hz
      cases hz
  have he : (Cli.exitCode (session.run shell input []).1 : Int) = 1 :=
    ((hrange hh).2 input []).2.2.trans hv
  obtain ⟨hcode, hends⟩ := hprogram console machine 0 .empty hc
  obtain ⟨ended, hended⟩ := hends hp
  obtain ⟨hexit, result, hresult, hequal⟩ := hcode ended hended
  exact ⟨⟨hh, hc, hp⟩, hl, hs, hv, Int.ofNat_inj.1 he, ended, result, hended, hexit, hresult,
    hequal⟩

end Session

end LineShell
