import LineShell.Proofs.Session.Deed
import LineShell.Proofs.Session.History
import LineShell.Proofs.Session.ReadLoop

/-!
# Outputs with a limit

A session whose output accepts `n` bytes in all is compared with the same session without a limit.
The output is the beginning of the other, and everything else stays the same (`Shell.Cut`), except
that an `echo` or `pwd` that does not fit leaves another mark (`Session.Abreast`). This goes for
the lines one by one and for the read loop (`Session.InStep`), and of a limited error stream nothing
shows at all but that it is cut off (`limits_unseen`).
-/

namespace LineShell

variable {σ κ ω : Type}

/-! ## Printing in pieces -/

theorem join_eq_flatten {α : Type} (sep : α) (pieces : List (List α)) :
    join sep pieces = (pieces.intersperse [sep]).flatten := by
  induction pieces using join.induct with
  | case1 => rfl
  | case2 piece => simp [join]
  | case3 piece next pieces ih => simp [join, ih]

/-- Writes the pieces to the output one after the other, or reports the first for which there is no
room. -/
def Scene.printEach (scene : Scene σ ω) (pieces : List Bytes) : Status × Scene σ ω :=
  (if (scene.out.writeEach pieces).1 then .ok (.code 0) else .error (.io Sink.fullMessage),
    { scene with out := (scene.out.writeEach pieces).2 })

theorem Scene.printEach_eq (scene : Scene σ ω) (pieces : List Bytes) :
    scene.printEach pieces = scene.print pieces.flatten := by
  unfold printEach print
  rw [Sink.writeEach_eq]

/-- The words, the spaces between them and the newline may as well be written one by one. -/
theorem Builtin.echo_eq_printEach (host : Host κ ω) (system : κ) (args : List Bytes)
    (scene : Scene σ ω) :
    Builtin.echo.run host system args scene =
      scene.printEach (args.intersperse [Bytes.space] ++ [[Bytes.newline]]) := by
  rw [Scene.printEach_eq, List.flatten_append, ← join_eq_flatten]
  rfl

theorem Builtin.printDir_eq_printEach (host : Host κ ω) (system : κ) (args : List Bytes)
    (scene : Scene σ ω) :
    Builtin.printDir.run host system args scene =
      match host.path system scene.dir with
      | .ok path => scene.printEach [path, [Bytes.newline]]
      | .error cause => (.error (.currentDir cause), scene) := by
  simp only [Scene.printEach_eq]
  rfl

/-! ## Shells that differ in the limit of an output -/

/-- The second output is the first one cut off after `n` bytes; the variables, the directory and
the system are the same. -/
structure Shell.Cut (n : Nat) (first second : Shell σ κ ω) : Prop where
  store : second.store = first.store
  dir : second.dir = first.dir
  system : second.system = first.system
  room : first.out.room = none
  out : second.out = first.out.cut n

namespace Shell.Cut

variable {n : Nat} {first second : Shell σ κ ω}

theorem prompt (h : first.Cut n second) (session : Session σ κ ω) :
    (session.prompt first).Cut n (session.prompt second) where
  store := h.store
  dir := h.dir
  system := h.system
  room := Sink.room_write h.room _
  out := by
    unfold Session.prompt
    dsimp only
    rw [h.out, Sink.cut_write h.room]

theorem report (h : first.Cut n second) (message : Text) :
    (first.report message).Cut n (second.report message) :=
  ⟨h.store, h.dir, h.system, h.room, h.out⟩

end Shell.Cut

/-- The same shell with the error stream cut off after `m` bytes. -/
def Shell.cutErr (m : Nat) (shell : Shell σ κ ω) : Shell σ κ ω :=
  { shell with err := shell.err.cut m }

theorem Shell.report_cutErr {shell : Shell σ κ ω} (h : shell.err.room = none) (m : Nat)
    (message : Text) : (shell.cutErr m).report message = (shell.report message).cutErr m := by
  have hw := Sink.cut_write h m (message.utf8 ++ [Bytes.newline])
  unfold cutErr report Scene.report Sink.writeLine
  dsimp only
  rw [hw]

/-! ## One line -/

variable [Store σ]

namespace Session

/-- The line leaves the mark, whatever the error stream and the status are before it. -/
def Leaves (session : Session σ κ ω) (shell : Shell σ κ ω) (line : Bytes) (mark : Mark) : Prop :=
  ∀ err status,
    (session.runLine { shell with err, status } line).2.err = err.write mark.diagnostic ∧
      (session.runLine { shell with err, status } line).2.status = mark.code.getD status

/-- The line asks for `echo` or `pwd`, and what it prints in the first shell does not fit into the
output of the second. -/
def Loses (session : Session σ κ ω) (first second : Shell σ κ ω) (line : Bytes) : Prop :=
  (session.action first.store line).prints ∧
    ∃ own, (session.runLine first line).2.out.accepted = first.out.accepted ++ own ∧
      second.out.fits own = false

/-- In both shells the line has one outcome, and leaves them alike up to the limit of the output. It
leaves one mark in both, unless what it prints is lost: then it succeeds in the first, and reports
the full output in the second. -/
structure Abreast (session : Session σ κ ω) (n : Nat) (first second : Shell σ κ ω) (line : Bytes)
    (outcome : LineOutcome) (first' second' : Shell σ κ ω) : Prop where
  runLine_first : session.runLine first line = (outcome, first')
  runLine_second : session.runLine second line = (outcome, second')
  cut : first'.Cut n second'
  lost : session.Loses first second line →
    session.Leaves first line .success ∧ session.Leaves second line .full
  kept : ¬ session.Loses first second line →
    ∃ mark, session.Leaves first line mark ∧ session.Leaves second line mark

section
variable {session : Session σ κ ω} {shell first second : Shell σ κ ω} {n : Nat} {line : Bytes}
  {deed : Deed σ κ ω}

theorem leaves_markIn (h : session.Does shell (session.action shell.store line) deed) :
    session.Leaves shell line (deed.markIn shell.out) := by
  intro err status
  have hd : session.Does { shell with err, status } (session.action shell.store line) deed :=
    h.transport rfl rfl rfl
  rw [runLine_eq_settle hd]
  exact ⟨rfl, rfl⟩

theorem loses_iff (hr : first.out.room = none) (second : Shell σ κ ω)
    (h : session.Does first (session.action first.store line) deed) :
    session.Loses first second line ↔
      deed.checked = true ∧ second.out.fits deed.printed = false := by
  have ho : (session.runLine first line).2.out.accepted =
      first.out.accepted ++ deed.printed := by
    rw [runLine_eq_settle h]
    exact congrArg Sink.accepted (Sink.write_of_room_none hr deed.printed)
  constructor
  · rintro ⟨hp, own, hown, hf⟩
    rw [ho, List.append_cancel_left_eq] at hown
    subst hown
    refine ⟨(h.of_prints hp).resolve_right fun hn => ?_, hf⟩
    rw [hn, Sink.fits_nil] at hf
    cases hf
  · rintro ⟨hc, hf⟩
    exact ⟨(h.of_checked hc).1, deed.printed, ho, hf⟩

theorem exists_abreast (session : Session σ κ ω) (h : first.Cut n second) (line : Bytes) :
    ∃ outcome first' second', session.Abreast n first second line outcome first' second' := by
  obtain ⟨deed, h₁⟩ := session.exists_deed first (session.action first.store line)
  -- the deed depends on nothing in which the shells differ
  have h₂ : session.Does second (session.action second.store line) deed := by
    rw [h.store]
    exact h₁.transport h.store h.dir h.system
  have hl := loses_iff h.room second h₁
  have hm : session.Leaves first line deed.mark := by
    rw [← Deed.markIn_of_room_none h.room]
    exact leaves_markIn h₁
  refine ⟨deed.outcome, _, _, runLine_eq_settle h₁, runLine_eq_settle h₂, ?_, fun hlost => ?_,
    fun hkept => ⟨deed.mark, hm, ?_⟩⟩
  · refine ⟨rfl, rfl, rfl, Sink.room_write h.room _, ?_⟩
    have ho := Sink.cut_write h.room n deed.printed
    rw [← h.out] at ho
    exact ho.symm
  · have hf := hl.1 hlost
    refine ⟨(h₁.of_checked hf.1).2 ▸ hm, ?_⟩
    rw [← Deed.markIn_of_lost hf]
    exact leaves_markIn h₂
  · rw [← Deed.markIn_of_kept (mt hl.2 hkept)]
    exact leaves_markIn h₂

end

/-! ## Sessions -/

theorem cut_after (session : Session σ κ ω) {n : Nat} {first second : Shell σ κ ω}
    (h : first.Cut n second) (lines : List Bytes) :
    (session.after first lines).Cut n (session.after second lines) := by
  induction lines generalizing first second with
  | nil => exact h
  | cons line rest ih =>
    obtain ⟨outcome, first', second', ha⟩ := session.exists_abreast h line
    unfold after
    rw [ha.runLine_first, ha.runLine_second]
    exact ih ha.cut

/-- Two iterations of the lines go side by side: after each prompt the next line is run in both, and
both end with the same line, if any. -/
inductive InStep (session : Session σ κ ω) (n : Nat) :
    Shell σ κ ω → Shell σ κ ω → List Bytes → Int × Shell σ κ ω → Int × Shell σ κ ω → Prop where
  | done {first second : Shell σ κ ω} : first.Cut n second →
      InStep session n first second [] (first.status, session.prompt first)
        (second.status, session.prompt second)
  | proceed {first second first' second' : Shell σ κ ω} {line : Bytes} {rest : List Bytes}
      {ended ended' : Int × Shell σ κ ω} :
      session.Abreast n (session.prompt first) (session.prompt second) line .proceed first'
        second' →
      InStep session n first' second' rest ended ended' →
      InStep session n first second (line :: rest) ended ended'
  | exit {first second first' second' : Shell σ κ ω} {line : Bytes} (rest : List Bytes) :
      session.Abreast n (session.prompt first) (session.prompt second) line .exit first' second' →
      InStep session n first second (line :: rest) (first'.status, first')
        (second'.status, second')
  | fatal {first second first' second' : Shell σ κ ω} {line : Bytes} {cause : ShellError}
      (rest : List Bytes) :
      session.Abreast n (session.prompt first) (session.prompt second) line (.fatal cause) first'
        second' →
      InStep session n first second (line :: rest) (1, first'.report cause.message)
        (1, second'.report cause.message)

theorem InStep.cut {session : Session σ κ ω} {n : Nat} {first second : Shell σ κ ω}
    {lines : List Bytes} {ended ended' : Int × Shell σ κ ω}
    (h : session.InStep n first second lines ended ended') : ended.2.Cut n ended'.2 := by
  induction h with
  | done hc => exact hc.prompt session
  | proceed _ _ ih => exact ih
  | exit _ ha => exact ha.cut
  | fatal _ ha => exact ha.cut.report _

theorem inStep_iterate (session : Session σ κ ω) {n : Nat} {first second : Shell σ κ ω}
    (h : first.Cut n second) (lines : List Bytes) :
    session.InStep n first second lines (session.iterate first lines)
      (session.iterate second lines) := by
  induction lines generalizing first second with
  | nil => exact .done h
  | cons line rest ih =>
    obtain ⟨outcome, first', second', ha⟩ := session.exists_abreast (h.prompt session) line
    unfold iterate
    rw [ha.runLine_first, ha.runLine_second]
    cases outcome with
    | proceed => exact .proceed ha (ih ha.cut)
    | exit => exact .exit rest ha
    | fatal cause => exact .fatal rest ha

/-! ## Limited error streams -/

theorem runLine_cutErr (session : Session σ κ ω) {shell : Shell σ κ ω}
    (h : shell.err.room = none) (m : Nat) (line : Bytes) :
    (session.runLine shell line).2.err.room = none ∧
      session.runLine (shell.cutErr m) line =
        ((session.runLine shell line).1, (session.runLine shell line).2.cutErr m) := by
  obtain ⟨deed, hd⟩ := session.exists_deed shell (session.action shell.store line)
  have hc : session.Does (shell.cutErr m) (session.action (shell.cutErr m).store line) deed :=
    hd.transport rfl rfl rfl
  rw [runLine_eq_settle hd, runLine_eq_settle hc]
  refine ⟨Sink.room_write h _, ?_⟩
  have hw := Sink.cut_write h m (deed.markIn shell.out).diagnostic
  unfold Deed.settle Shell.leave Shell.cutErr
  dsimp only
  rw [hw]

theorem turns_cutErr (session : Session σ κ ω) {shell : Shell σ κ ω} (h : shell.err.room = none)
    (m : Nat) (lines : List Bytes) :
    session.turns (shell.cutErr m) lines =
      (session.turns shell lines).map fun turn => (turn.1, turn.2.cutErr m) := by
  induction lines generalizing shell with
  | nil => rfl
  | cons line rest ih =>
    obtain ⟨hr, ht⟩ := session.runLine_cutErr h m line
    unfold turns
    dsimp only
    rw [ht, ih hr, List.map_cons]

theorem iterate_cutErr (session : Session σ κ ω) {shell : Shell σ κ ω} (h : shell.err.room = none)
    (m : Nat) (lines : List Bytes) :
    session.iterate (shell.cutErr m) lines =
      ((session.iterate shell lines).1, (session.iterate shell lines).2.cutErr m) := by
  induction lines generalizing shell with
  | nil => rfl
  | cons line rest ih =>
    have hp : session.prompt (shell.cutErr m) = (session.prompt shell).cutErr m := rfl
    have hs : (session.prompt shell).err.room = none := h
    obtain ⟨hr, ht⟩ := session.runLine_cutErr hs m line
    unfold iterate
    rw [hp, ht]
    generalize session.runLine (session.prompt shell) line = turn at hr ⊢
    obtain ⟨outcome, next⟩ := turn
    cases outcome with
    | proceed => exact ih hr
    | exit => rfl
    | fatal cause =>
      dsimp only
      rw [Shell.report_cutErr hr]

/-- **Limited outputs do not change what a session does.** If the output accepts `n` bytes in all,
it is the beginning of what it is without a limit, and the variables, the directory, the launches
and the outcome of every line are the same; only the lines of `echo` and `pwd` whose own output does
not fit leave another mark. If the error stream accepts `m` bytes, nothing changes but that it is
cut off. -/
theorem limits_unseen (session : Session σ κ ω) (shell : Shell σ (Recorded κ) ω) (n m : Nat) :
    let loud := { shell with out := .ofLimit none }
    let limited := { shell with out := .ofLimit (some n) }
    let heard := { shell with err := .ofLimit none }
    let unheard := { shell with err := .ofLimit (some m) }
    (∀ lines, (session.recording.after loud lines).Cut n (session.recording.after limited lines) ∧
      ∀ line, ∃ outcome first second,
        session.recording.Abreast n (session.recording.after loud lines)
          (session.recording.after limited lines) line outcome first second) ∧
    (∀ input buffer,
      (session.recording.run loud input buffer).2.Cut n
        (session.recording.run limited input buffer).2 ∧
      session.recording.InStep n loud limited input.lines (session.recording.run loud input buffer)
        (session.recording.run limited input buffer)) ∧
    (∀ lines, session.recording.turns unheard lines =
      (session.recording.turns heard lines).map fun turn => (turn.1, turn.2.cutErr m)) ∧
    ∀ input buffer, session.recording.run unheard input buffer =
      ((session.recording.run heard input buffer).1,
        (session.recording.run heard input buffer).2.cutErr m) := by
  intro loud limited heard unheard
  have ho : loud.Cut n limited := ⟨rfl, rfl, rfl, rfl, (Sink.cut_ofLimit n).symm⟩
  have he : unheard = heard.cutErr m := by
    unfold Shell.cutErr
    rw [Sink.cut_ofLimit]
  refine ⟨fun lines => ?_, fun input buffer => ?_, fun lines => ?_, fun input buffer => ?_⟩
  · have hc := session.recording.cut_after ho lines
    exact ⟨hc, session.recording.exists_abreast hc⟩
  · rw [run_eq_iterate, run_eq_iterate]
    have hs := session.recording.inStep_iterate ho input.lines
    exact ⟨hs.cut, hs⟩
  · rw [he]
    exact session.recording.turns_cutErr rfl m lines
  · rw [he, run_eq_iterate, run_eq_iterate]
    exact session.recording.iterate_cutErr rfl m input.lines

end Session

end LineShell
