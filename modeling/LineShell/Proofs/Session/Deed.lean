import LineShell.Proofs.Session.Action
import LineShell.Proofs.Sink

/-!
# What a line comes to in any sinks

The two outputs and the status from before have no say in what a line does. A `Deed` tells all
of it, the `Mark` that the line leaves on the error stream and the status included, and
`Deed.settle` puts it into effect; every line has a deed (`exists_deed`). The outputs matter in one
place only: an `echo` or `pwd` that has no room for what it prints leaves the mark `Mark.full`. In
every sink with room for it a line does the same (`runLine_of_fits`).
-/

namespace LineShell

variable {σ κ ω : Type}

/-- What a line leaves behind for the user: a diagnostic, and a status unless it keeps the one from
before. -/
structure Mark where
  diagnostic : Bytes := []
  code : Option Int := none
  deriving DecidableEq, Repr

namespace Mark

def success : Mark := { code := some 0 }

/-- One line of diagnostic and the status 1. -/
def fault (message : Text) : Mark := ⟨message.utf8 ++ [Bytes.newline], some 1⟩

/-- The mark of output for which there is no room. -/
def full : Mark := fault (ShellError.io Sink.fullMessage).message

def ofStatus : Status → Mark
  | .ok (.code status) => { code := some status }
  | .ok .unchanged => {}
  | .ok .exit => {}
  | .error cause => if cause.isFatal then {} else fault cause.message

/-- The mark that comes after a diagnostic of someone else. -/
def after (heard : Bytes) (mark : Mark) : Mark :=
  { mark with diagnostic := heard ++ mark.diagnostic }

end Mark

/-- What the end of a command means for the session. -/
def LineOutcome.ofStatus : Status → LineOutcome
  | .ok .exit => .exit
  | .ok _ => .proceed
  | .error cause => if cause.isFatal then .fatal cause else .proceed

namespace Shell

def leave (shell : Shell σ κ ω) (mark : Mark) : Shell σ κ ω :=
  { shell with err := shell.err.write mark.diagnostic, status := mark.code.getD shell.status }

theorem leave_nothing (shell : Shell σ κ ω) : shell.leave {} = shell := by
  unfold leave
  dsimp only
  rw [Sink.write_nil]
  rfl

theorem leave_code (shell : Shell σ κ ω) (status : Int) :
    shell.leave { code := some status } = { shell with status } := by
  unfold leave
  dsimp only
  rw [Sink.write_nil]
  rfl

theorem conclude_eq_leave (shell : Shell σ κ ω) (status : Status) :
    shell.conclude status = (.ofStatus status, shell.leave (.ofStatus status)) := by
  cases status with
  | ok outcome =>
    cases outcome with
    | code status =>
      dsimp only [conclude, LineOutcome.ofStatus, Mark.ofStatus]
      rw [leave_code]
    | unchanged =>
      dsimp only [conclude, LineOutcome.ofStatus, Mark.ofStatus]
      rw [leave_nothing]
    | exit =>
      dsimp only [conclude, LineOutcome.ofStatus, Mark.ofStatus]
      rw [leave_nothing]
  | error cause =>
    dsimp only [conclude, LineOutcome.ofStatus, Mark.ofStatus]
    split
    · rw [leave_nothing]
    · rfl

theorem conclude_fatal {shell next : Shell σ κ ω} {status : Status} {cause : ShellError}
    (h : shell.conclude status = (.fatal cause, next)) : next = shell := by
  cases status with
  | ok outcome => cases outcome <;> cases h
  | error cause =>
    unfold conclude at h
    dsimp only at h
    split at h <;> cases h
    rfl

end Shell

/-! ## Deeds -/

/-- All that a line comes to, apart from the sinks and the status from before. -/
structure Deed (σ κ ω : Type) where
  store : σ
  dir : ω
  system : κ
  outcome : LineOutcome := .proceed
  printed : Bytes := []
  mark : Mark := {}
  /-- Whether it is an error if there is no room for what is printed. -/
  checked : Bool := false

/-- Doing nothing. -/
def Shell.idle (shell : Shell σ κ ω) : Deed σ κ ω :=
  { store := shell.store, dir := shell.dir, system := shell.system }

namespace Deed

/-- The mark that is left where the output is this sink. -/
def markIn (deed : Deed σ κ ω) (out : Sink) : Mark :=
  if deed.checked && !out.fits deed.printed then .full else deed.mark

def settle (deed : Deed σ κ ω) (out err : Sink) (status : Int) : LineOutcome × Shell σ κ ω :=
  (deed.outcome,
    Shell.leave ⟨⟨deed.store, deed.dir, out.write deed.printed, err⟩, deed.system, status⟩
      (deed.markIn out))

section
variable {deed : Deed σ κ ω} {out : Sink}

theorem markIn_of_lost (h : deed.checked = true ∧ out.fits deed.printed = false) :
    deed.markIn out = .full := by
  unfold markIn
  rw [h.1, h.2]
  rfl

theorem markIn_of_kept (h : ¬ (deed.checked = true ∧ out.fits deed.printed = false)) :
    deed.markIn out = deed.mark := by
  unfold markIn
  refine if_neg fun hl => h ?_
  simpa only [Bool.and_eq_true, Bool.not_eq_true'] using hl

theorem markIn_of_room_none (h : out.room = none) : deed.markIn out = deed.mark := by
  refine markIn_of_kept fun hl => ?_
  rw [Sink.fits_of_room_none h] at hl
  cases hl.2

theorem settle_of_unchecked (h : deed.checked = false) (err : Sink) (status : Int) :
    deed.settle out err status = (deed.outcome,
      Shell.leave ⟨⟨deed.store, deed.dir, out.write deed.printed, err⟩, deed.system, status⟩
        deed.mark) := by
  unfold settle
  rw [markIn_of_kept]
  rintro ⟨hc, _⟩
  rw [h] at hc
  cases hc

end

end Deed

/-- Prints the data, and fails if there is no room for it. -/
def Shell.printing (shell : Shell σ κ ω) (data : Bytes) : Deed σ κ ω :=
  { shell.idle with printed := data, mark := .success, checked := true }

theorem Shell.conclude_print (shell : Shell σ κ ω) (data : Bytes) :
    Shell.conclude ⟨(shell.toScene.print data).2, shell.system, shell.status⟩
        (shell.toScene.print data).1 =
      (shell.printing data).settle shell.out shell.err shell.status := by
  rw [conclude_eq_leave]
  unfold Scene.print Deed.settle Deed.markIn printing
  dsimp only
  cases shell.out.fits data <;> rfl

/-- Whether the action is to print something, and fails if it cannot. -/
def Action.prints : Action → Bool
  | .run .echo _ => true
  | .run .printDir _ => true
  | _ => false

variable [Store σ]

/-- The built-in commands that print nothing leave both sinks alone. -/
theorem Standard.run_silent {command : Standard} (h : command = .changeDir ∨ command = .exportVar)
    (config : Config) (host : Host κ ω) (system : κ) (args : List Bytes) (scene : Scene σ ω) :
    ∃ (status : Status) (store : σ) (dir : ω), ∀ out err,
      (command.builtin config).run host system args ⟨scene.store, scene.dir, out, err⟩ =
        (status, ⟨store, dir, out, err⟩) := by
  rcases h with rfl | rfl
  · dsimp only [builtin, Builtin.changeDir]
    split
    · exact ⟨_, scene.store, scene.dir, fun _ _ => rfl⟩
    · split
      · exact ⟨_, scene.store, _, fun _ _ => rfl⟩
      · exact ⟨_, scene.store, scene.dir, fun _ _ => rfl⟩
  · dsimp only [builtin, Builtin.exportVar]
    split
    · exact ⟨_, scene.store, scene.dir, fun _ _ => rfl⟩
    · split
      · exact ⟨_, scene.store, scene.dir, fun _ _ => rfl⟩
      · split
        · exact ⟨_, _, scene.dir, fun _ _ => rfl⟩
        · exact ⟨_, scene.store, scene.dir, fun _ _ => rfl⟩

namespace Session

/-- In any sinks and whatever the status is, the action comes to this deed. -/
structure Does (session : Session σ κ ω) (shell : Shell σ κ ω) (action : Action)
    (deed : Deed σ κ ω) : Prop where
  perform_eq : ∀ out err status,
    session.perform ⟨⟨shell.store, shell.dir, out, err⟩, shell.system, status⟩ action =
      deed.settle out err status
  of_checked : deed.checked → action.prints ∧ deed.mark = .success
  of_prints : action.prints → deed.checked ∨ deed.printed = []

/-- A deed depends on the shell through the variables, the directory and the system only. -/
theorem Does.transport {session : Session σ κ ω} {first second : Shell σ κ ω} {action : Action}
    {deed : Deed σ κ ω} (h : session.Does first action deed) (hs : second.store = first.store)
    (hd : second.dir = first.dir) (hk : second.system = first.system) :
    session.Does second action deed where
  perform_eq out err status := by
    rw [hs, hd, hk]
    exact h.perform_eq out err status
  of_checked := h.of_checked
  of_prints := h.of_prints

section
variable {session : Session σ κ ω} {shell : Shell σ κ ω} {action : Action}

theorem does_unchecked {deed : Deed σ κ ω} (hc : deed.checked = false)
    (hp : action.prints = true → deed.printed = [])
    (h : ∀ out err status,
      session.perform ⟨⟨shell.store, shell.dir, out, err⟩, shell.system, status⟩ action =
        (deed.outcome,
          Shell.leave ⟨⟨deed.store, deed.dir, out.write deed.printed, err⟩, deed.system, status⟩
            deed.mark)) : session.Does shell action deed where
  perform_eq out err status := by rw [h, Deed.settle_of_unchecked hc]
  of_checked ht := by
    rw [hc] at ht
    cases ht
  of_prints ha := .inr (hp ha)

theorem does_silent {store : σ} {dir : ω} {outcome : LineOutcome} {mark : Mark}
    (h : ∀ out err status,
      session.perform ⟨⟨shell.store, shell.dir, out, err⟩, shell.system, status⟩ action =
        (outcome, Shell.leave ⟨⟨store, dir, out, err⟩, shell.system, status⟩ mark)) :
    session.Does shell action ⟨store, dir, shell.system, outcome, [], mark, false⟩ := by
  refine does_unchecked rfl (fun _ => rfl) fun out err status => ?_
  rw [h, Sink.write_nil]

theorem does_printing {data : Bytes} (ha : action.prints)
    (h : ∀ out err status,
      session.perform ⟨⟨shell.store, shell.dir, out, err⟩, shell.system, status⟩ action =
        let printed := Scene.print ⟨shell.store, shell.dir, out, err⟩ data
        Shell.conclude ⟨printed.2, shell.system, status⟩ printed.1) :
    session.Does shell action (shell.printing data) where
  perform_eq out err status := by
    rw [h]
    exact Shell.conclude_print ⟨⟨shell.store, shell.dir, out, err⟩, shell.system, status⟩ data
  of_checked _ := ⟨ha, rfl⟩
  of_prints _ := .inl rfl

end

theorem exists_deed_run (session : Session σ κ ω) (shell : Shell σ κ ω) (command : Standard)
    (args : List Bytes) : ∃ deed, session.Does shell (.run command args) deed := by
  have silent (status : Status) (store : σ) (dir : ω)
      (h : ∀ out err, (command.builtin session.config).run session.host shell.system args
        ⟨shell.store, shell.dir, out, err⟩ = (status, ⟨store, dir, out, err⟩)) :
      ∃ deed, session.Does shell (.run command args) deed := by
    refine ⟨⟨store, dir, shell.system, .ofStatus status, [], .ofStatus status, false⟩,
      does_silent fun out err code => ?_⟩
    rw [perform_run]
    dsimp only
    rw [h, Shell.conclude_eq_leave]
  cases command with
  | exit =>
    let printed := session.config.farewell.utf8 ++ [Bytes.newline]
    refine ⟨{ shell.idle with outcome := .exit, printed },
      does_unchecked rfl nofun fun out err status => ?_⟩
    rw [perform_run, Shell.conclude_eq_leave]
    rfl
  | changeDir =>
    obtain ⟨status, store, dir, h⟩ := Standard.run_silent (.inl rfl) session.config session.host
      shell.system args shell.toScene
    exact silent status store dir h
  | printDir =>
    cases hp : session.host.path shell.system shell.dir with
    | ok path =>
      refine ⟨shell.printing (path ++ [Bytes.newline]), does_printing rfl fun out err status => ?_⟩
      rw [perform_run]
      dsimp only [Standard.builtin, Builtin.printDir]
      rw [hp]
    | error cause =>
      refine silent (.error (.currentDir cause)) shell.store shell.dir fun out err => ?_
      dsimp only [Standard.builtin, Builtin.printDir]
      rw [hp]
  | echo => exact ⟨_, does_printing rfl fun _ _ _ => rfl⟩
  | exportVar =>
    obtain ⟨status, store, dir, h⟩ := Standard.run_silent (.inr rfl) session.config session.host
      shell.system args shell.toScene
    exact silent status store dir h

theorem exists_deed_assign (session : Session σ κ ω) (shell : Shell σ κ ω) (name value : Bytes) :
    ∃ deed, session.Does shell (.assign name value) deed := by
  by_cases hv : value.isEmpty
  · refine ⟨shell.idle, does_silent fun out err status => ?_⟩
    dsimp only [perform, Scene.assign]
    rw [if_pos hv, Shell.leave_nothing]
  · cases hs : Store.set shell.store name value with
    | ok store =>
      refine ⟨{ shell.idle with store }, does_silent fun out err status => ?_⟩
      dsimp only [perform, Scene.assign, Shell.idle]
      rw [if_neg hv, hs, Shell.leave_nothing]
    | error cause =>
      let message : Text := "variable assignment failed: ".toList ++ cause.desc
      let mark : Mark := { diagnostic := message.utf8 ++ [Bytes.newline] }
      refine ⟨{ shell.idle with mark }, does_silent fun out err status => ?_⟩
      dsimp only [perform, Scene.assign]
      rw [if_neg hv, hs]
      rfl

theorem exists_deed_launch (session : Session σ κ ω) (shell : Shell σ κ ω) (command : Command) :
    ∃ deed, session.Does shell (.launch command) deed := by
  let reply := session.host.launch shell.system shell.dir command (Store.view shell.store)
  refine ⟨⟨shell.store, shell.dir, reply.system, .ofStatus reply.status, reply.out,
    (Mark.ofStatus reply.status).after reply.err, false⟩,
    does_unchecked rfl nofun fun out err status => ?_⟩
  dsimp only [perform]
  rw [Shell.conclude_eq_leave]
  unfold Shell.leave Shell.receive Mark.after
  dsimp only
  rw [Sink.write_append]

theorem exists_deed (session : Session σ κ ω) (shell : Shell σ κ ω) (action : Action) :
    ∃ deed, session.Does shell action deed := by
  cases action with
  | refuse cause =>
    exact ⟨{ shell.idle with mark := .fault cause.message }, does_silent fun _ _ _ => rfl⟩
  | nothing =>
    refine ⟨shell.idle, does_silent fun out err status => ?_⟩
    rw [Shell.leave_nothing]
    rfl
  | run command args => exact session.exists_deed_run shell command args
  | assign name value => exact session.exists_deed_assign shell name value
  | launch command => exact session.exists_deed_launch shell command

theorem runLine_eq_settle {session : Session σ κ ω} {shell : Shell σ κ ω} {line : Bytes}
    {deed : Deed σ κ ω} (h : session.Does shell (session.action shell.store line) deed) :
    session.runLine shell line = deed.settle shell.out shell.err shell.status := by
  rw [runLine_eq_perform]
  exact h.perform_eq shell.out shell.err shell.status

/-- A line does the same in every sink with room for what it prints. -/
theorem runLine_of_fits (session : Session σ κ ω) (shell : Shell σ κ ω) (line : Bytes) :
    ∃ (own : Bytes) (outcome : LineOutcome) (after : Shell σ κ ω), ∀ sink : Sink, sink.fits own →
      session.runLine { shell with out := sink } line =
        (outcome, { after with out := sink.write own }) := by
  obtain ⟨deed, hd⟩ := session.exists_deed shell (session.action shell.store line)
  let after : Shell σ κ ω :=
    Shell.leave ⟨⟨deed.store, deed.dir, shell.out, shell.err⟩, deed.system, shell.status⟩ deed.mark
  refine ⟨deed.printed, deed.outcome, after, fun sink hf => ?_⟩
  have hs : session.Does { shell with out := sink } (session.action shell.store line) deed :=
    hd.transport rfl rfl rfl
  rw [runLine_eq_settle hs]
  unfold Deed.settle
  rw [Deed.markIn_of_kept fun hl => by simp [hl.2] at hf]
  rfl

end Session

end LineShell
