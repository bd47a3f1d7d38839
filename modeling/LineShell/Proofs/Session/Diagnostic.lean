import LineShell.Proofs.Session.Fault
import LineShell.Proofs.Sink
import LineShell.Proofs.Text.Newline

/-!
# Diagnostics

A line writes to the error stream only if it fails, and then the message of its fault and a newline.
No message has a newline of its own, except that `cd` shows the path as it is: a directory that
cannot be entered, with a newline in its name, makes a diagnostic of several lines
(`runLine_err`).
-/

namespace LineShell

variable {σ κ ω : Type}

/-- A byte string whose only newline is its last byte. -/
def Bytes.IsLine (text : Bytes) : Prop :=
  ∃ body, text = body ++ [Bytes.newline] ∧ Bytes.newline ∉ body

theorem Bytes.isLine_append_newline {body : Bytes} :
    (body ++ [Bytes.newline]).IsLine ↔ Bytes.newline ∉ body := by
  constructor
  · rintro ⟨other, he, hn⟩
    rwa [List.append_cancel_right he]
  · exact fun hn => ⟨body, rfl, hn⟩

/-- A launch that writes nothing to the error stream, and whose error has no newline in its text. -/
structure Reply.Quiet (reply : Reply κ) : Prop where
  err_eq : reply.err = []
  newline_not_mem : ∀ {cause}, reply.status = .error cause → '\n' ∉ cause.message

theorem Sink.writeLine_of_room_none {sink : Sink} (h : sink.room = none) (line : Text) :
    sink.writeLine line = ⟨sink.accepted ++ (line.utf8 ++ [Bytes.newline]), none⟩ :=
  write_of_room_none h _

theorem Shell.receive_err (shell : Shell σ κ ω) {reply : Reply κ} (h : reply.Quiet) :
    (shell.receive reply).err = shell.err := by
  unfold receive
  rw [h.err_eq, Sink.write_nil]

theorem Shell.conclude_ok_err (shell : Shell σ κ ω) (outcome : Outcome) :
    (shell.conclude (.ok outcome)).2.err = shell.err := by
  cases outcome <;> rfl

/-! ## Messages -/

theorem Errno.newline_not_mem_descriptions :
    ∀ entry ∈ descriptions, '\n' ∉ entry.2.toList := by
  unfold descriptions
  simp only [List.forall_mem_cons, List.not_mem_nil, false_implies, implies_true, and_true]
  and_intros <;> exact Text.newline_not_mem_ofList (by decide)

theorem Errno.newline_not_mem_desc (errno : Errno) : '\n' ∉ errno.desc := by
  unfold desc
  cases h : descriptions.lookup errno.number with
  | none => exact Text.newline_not_mem_ofList (by decide)
  | some text =>
    obtain ⟨_, _, he, _⟩ := List.lookup_eq_some_iff.1 h
    exact newline_not_mem_descriptions (errno.number, text) (by rw [he]; simp)

/-- Only two errors show a text as it is. -/
theorem ShellError.newline_mem_message {cause : ShellError} :
    '\n' ∈ cause.message ↔ (∃ target errno, cause = .changeDir target errno ∧ '\n' ∈ target) ∨
      ∃ detail, cause = .io detail ∧ '\n' ∈ detail := by
  cases cause <;> dsimp only [message] <;>
    simp [Errno.newline_not_mem_desc, Text.newline_not_mem_quoted]

theorem Scene.newline_not_mem_of_print {scene : Scene σ ω} {data : Bytes} {cause : ShellError}
    (h : (scene.print data).1 = .error cause) : '\n' ∉ cause.message := by
  dsimp only [print] at h
  split at h
  · cases h
  · cases h
    decide +kernel

theorem ParseError.newline_not_mem_message (cause : ParseError) : '\n' ∉ cause.message := by
  obtain ⟨⟨⟩⟩ := cause
  exact Text.newline_not_mem_ofList (by decide)

variable [Store σ]

/-- The directory that `cd` is to enter. -/
def Scene.target? (scene : Scene σ ω) (args : List Bytes) : Option Bytes :=
  args.head? <|> Store.get scene.store Builtin.homeName

/-- The directory is the only text that a built-in command shows in an error. -/
theorem Standard.newline_mem_of_error {command : Standard} {config : Config} {host : Host κ ω}
    {system : κ} {args : List Bytes} {scene : Scene σ ω} {cause : ShellError}
    (h : ((command.builtin config).run host system args scene).1 = .error cause) :
    '\n' ∈ cause.message ↔ command = .changeDir ∧ ∃ target errno,
      scene.target? args = some target ∧ host.enter system scene.dir target = .error errno ∧
        Bytes.newline ∈ target := by
  cases command with
  | exit => cases h
  | changeDir =>
    dsimp only [builtin, Builtin.changeDir] at h
    unfold Scene.target?
    split at h
    · rename_i hn
      cases h
      simp [hn, ShellError.newline_mem_message]
    · rename_i target ht
      split at h
      · cases h
      · rename_i errno he
        cases h
        simp [ht, he, ShellError.newline_mem_message, Text.newline_mem_lossy]
  | printDir =>
    dsimp only [builtin, Builtin.printDir] at h
    split at h
    · simpa using Scene.newline_not_mem_of_print h
    · cases h
      simp [ShellError.newline_mem_message]
  | echo => simpa using Scene.newline_not_mem_of_print h
  | exportVar =>
    dsimp only [builtin, Builtin.exportVar] at h
    split at h
    · cases h
      simp [ShellError.newline_mem_message]
    · split at h
      · cases h
        simp [ShellError.newline_mem_message]
      · split at h
        · cases h
        · cases h
          simp [ShellError.newline_mem_message]

/-! ## Lines -/

namespace Session

/-- The line asks to enter a directory that cannot be entered and has a newline in its name. -/
def EntersBroken (session : Session σ κ ω) (shell : Shell σ κ ω) (line : Bytes) : Prop :=
  ∃ args target errno, session.action shell.store line = .run .changeDir args ∧
    shell.target? args = some target ∧
    session.host.enter shell.system shell.dir target = .error errno ∧ Bytes.newline ∈ target

/-- In this shell the host leaves the diagnostics of a launch to the shell. -/
def LaunchesQuietly (session : Session σ κ ω) (shell : Shell σ κ ω) : Prop :=
  ∀ command, (session.host.launch shell.system shell.dir command (Store.view shell.store)).Quiet

section
variable {session : Session σ κ ω} {shell : Shell σ κ ω} {line : Bytes} {action : Action}
  {fault : Fault}

theorem actionFails_unique {other : Fault} (h : session.ActionFails shell action fault)
    (ho : session.ActionFails shell action other) : other = fault := by
  cases h with
  | refused cause =>
    cases ho
    rfl
  | builtin he =>
    cases ho with
    | builtin ho =>
      cases he.symm.trans ho
      rfl
  | rejected _ hs =>
    cases ho with
    | rejected _ ho =>
      cases hs.symm.trans ho
      rfl
  | launched he =>
    cases ho with
    | launched ho =>
      cases he.symm.trans ho
      rfl

theorem perform_err_of_fails (hq : session.LaunchesQuietly shell)
    (h : session.ActionFails shell action fault) :
    (session.perform shell action).2.err =
      if fault.isFatal then shell.err else shell.err.writeLine fault.message := by
  cases h with
  | refused cause => rfl
  | builtin he =>
    obtain ⟨out, hp⟩ := perform_run_of_error he
    rw [hp]
    rfl
  | rejected hv hs =>
    rw [perform_assign_of_rejected hv hs]
    rfl
  | @launched command cause he =>
    have hw := shell.receive_err (hq command)
    rw [perform_launch_of_error he, Fault.isFatal_launched]
    split
    · exact hw
    · exact congrArg (Sink.writeLine · cause.message) hw

/-- A line that does not fail writes nothing to the error stream. -/
theorem perform_err_of_not_fails (hq : session.LaunchesQuietly shell)
    (h : ∀ fault, ¬ session.ActionFails shell action fault) :
    (session.perform shell action).2.err = shell.err := by
  cases action with
  | refuse cause => exact absurd (.refused cause) (h _)
  | nothing => rfl
  | run command args =>
    have hr := command.effect_run session.config session.host shell.system args shell.toScene
    rw [perform_run]
    dsimp only
    cases hs : ((command.builtin session.config).run session.host shell.system args
      shell.toScene).1 with
    | ok outcome => rw [Shell.conclude_ok_err, hr.err_eq]
    | error cause => exact absurd (.builtin hs) (h _)
  | assign name value =>
    dsimp only [perform, Scene.assign]
    split
    · rfl
    · rename_i hv
      split
      · rfl
      · rename_i hs
        exact absurd (.rejected (mt List.isEmpty_iff.2 hv) hs) (h _)
  | launch command =>
    dsimp only [perform]
    cases hs : (session.host.launch shell.system shell.dir command
      (Store.view shell.store)).status with
    | ok outcome => rw [Shell.conclude_ok_err, shell.receive_err (hq command)]
    | error cause => exact absurd (.launched hs) (h _)

theorem perform_err_cases (hq : session.LaunchesQuietly shell) :
    (∃ fault, session.ActionFails shell action fault ∧ fault.isFatal = false ∧
      (session.perform shell action).2.err = shell.err.writeLine fault.message) ∨
    (∀ fault, session.ActionFails shell action fault → fault.isFatal) ∧
      (session.perform shell action).2.err = shell.err := by
  by_cases h : ∃ fault, session.ActionFails shell action fault
  · obtain ⟨fault, h⟩ := h
    have he := perform_err_of_fails hq h
    cases hf : fault.isFatal with
    | true =>
      rw [hf, if_pos rfl] at he
      refine .inr ⟨fun other ho => ?_, he⟩
      rwa [actionFails_unique h ho]
    | false =>
      rw [hf, if_neg (by decide)] at he
      exact .inl ⟨fault, h, hf, he⟩
  · have h (fault : Fault) : ¬ session.ActionFails shell action fault := fun hf => h ⟨fault, hf⟩
    exact .inr ⟨fun fault hf => absurd hf (h fault), perform_err_of_not_fails hq h⟩

theorem newline_mem_message_of_fails (hq : session.LaunchesQuietly shell)
    (h : session.Fails shell line fault) :
    '\n' ∈ fault.message ↔ session.EntersBroken shell line := by
  unfold Fails at h
  unfold EntersBroken
  generalize session.action shell.store line = action at h
  cases h with
  | refused cause => exact iff_of_false cause.newline_not_mem_message (by simp)
  | @builtin command args cause he =>
    refine (Standard.newline_mem_of_error he).trans ?_
    constructor
    · rintro ⟨rfl, target, errno, ht, hn⟩
      exact ⟨args, target, errno, rfl, ht, hn⟩
    · rintro ⟨_, target, errno, ⟨⟩, ht, hn⟩
      exact ⟨rfl, target, errno, ht, hn⟩
  | @rejected name value cause hv hs =>
    refine iff_of_false ?_ (by simp)
    dsimp only [Fault.message]
    rw [List.mem_append, not_or]
    exact ⟨Text.newline_not_mem_ofList (by decide), cause.newline_not_mem_desc⟩
  | launched he => exact iff_of_false ((hq _).newline_not_mem he) (by simp)

theorem fails_of_entersBroken (h : session.EntersBroken shell line) :
    ∃ cause, session.Fails shell line (.builtin .changeDir cause) := by
  obtain ⟨args, target, errno, ha, ht, he, _⟩ := h
  refine ⟨.changeDir (Text.lossy target) errno, ?_⟩
  unfold Fails
  rw [ha]
  refine .builtin ?_
  unfold Scene.target? at ht
  dsimp only [Standard.builtin, Builtin.changeDir]
  rw [ht]
  dsimp only
  rw [he]

end

/-- **A line that fails is told of once.** A line writes the message of its fault and a newline, if
it fails and that does not end the session, and otherwise nothing. That is one line, unless a
directory cannot be entered that has a newline in its name. -/
theorem runLine_err (session : Session σ κ ω) (shell : Shell σ κ ω) (line : Bytes)
    (hq : session.LaunchesQuietly shell) (hr : shell.err.room = none) :
    ∃ written, (session.runLine shell line).2.err = ⟨shell.err.accepted ++ written, none⟩ ∧
      (written ≠ [] ↔ ∃ fault, session.Fails shell line fault ∧ fault.isFatal = false) ∧
      (∀ fault, session.Fails shell line fault → fault.isFatal = false →
        written = fault.message.utf8 ++ [Bytes.newline]) ∧
      (written = [] ∨ Bytes.IsLine written ↔ ¬ session.EntersBroken shell line) := by
  rw [runLine_eq_perform]
  rcases perform_err_cases hq with ⟨fault, hf, hn, he⟩ | ⟨hf, he⟩
  · refine ⟨fault.message.utf8 ++ [Bytes.newline], ?_, ?_, ?_, ?_⟩
    · rw [he, Sink.writeLine_of_room_none hr]
    · exact iff_of_true (by simp) ⟨fault, hf, hn⟩
    · intro other ho _
      rw [actionFails_unique hf ho]
    · rw [← newline_mem_message_of_fails hq hf, ← Text.newline_mem_utf8,
        ← Bytes.isLine_append_newline]
      simp
  · refine ⟨[], ?_, ?_, ?_, ?_⟩
    · rw [he, List.append_nil, ← hr]
    · refine iff_of_false (by simp) ?_
      rintro ⟨fault, h, hn⟩
      simp [hf fault h] at hn
    · intro fault h hn
      simp [hf fault h] at hn
    · refine iff_of_true (.inl rfl) fun hb => ?_
      obtain ⟨cause, h⟩ := fails_of_entersBroken hb
      cases hf _ h

/-- A command whose name has a newline, on a host that takes no name: the message quotes it. -/
theorem runLine_err_quoted :
    let host : Host Unit Unit := { Host.idle with
      enter := fun _ _ _ => .error .noEntry
      launch := fun system _ command _ =>
        { status := .error (.invalidArgument (Text.lossy (command.name?.getD []))), system } }
    let session : Session Table Unit Unit := ⟨host, {}⟩
    let shell : Shell Table Unit Unit :=
      ⟨⟨Table.empty.put (bytes "V") (bytes "a\nb"), (), .ofLimit none, .ofLimit none⟩, (), 0⟩
    session.LaunchesQuietly shell ∧ shell.err.room = none ∧
      ∃ written, (session.runLine shell (bytes "$V")).2.err = ⟨written, none⟩ ∧
        written = bytes "invalid argument: \"a\\nb\"" ++ [Bytes.newline] ∧
        Bytes.IsLine written := by
  intro host session shell
  have hq : session.LaunchesQuietly shell := by
    refine fun command => ⟨rfl, fun h => ?_⟩
    cases h
    simp [ShellError.newline_mem_message]
  let command : Command := ⟨[⟨bytes "a\nb", false⟩], []⟩
  have ha : session.action shell.store (bytes "$V") = .launch command := by decide +kernel
  obtain ⟨written, he, _, hw, hl⟩ := session.runLine_err shell (bytes "$V") hq rfl
  have hf : session.Fails shell (bytes "$V")
      (.launched command (.invalidArgument "a\nb".toList)) := by
    unfold Fails
    rw [ha]
    exact .launched (by decide +kernel)
  have hw := hw _ hf rfl
  have hb : ¬ session.EntersBroken shell (bytes "$V") := by
    rintro ⟨_, _, _, hc, _⟩
    cases ha.symm.trans hc
  refine ⟨hq, rfl, written, he, ?_, (hl.2 hb).resolve_left ?_⟩
  · rw [hw]
    decide +kernel
  · simp [hw]

/-- A directory with that name, and none there: the line has no newline, and its diagnostic has
two. -/
theorem runLine_err_broken :
    let host : Host Unit Unit := { Host.idle with enter := fun _ _ _ => .error .noEntry }
    let session : Session Table Unit Unit := ⟨host, {}⟩
    let shell : Shell Table Unit Unit :=
      ⟨⟨Table.empty.put (bytes "V") (bytes "a\nb"), (), .ofLimit none, .ofLimit none⟩, (), 0⟩
    Bytes.newline ∉ bytes "cd $V" ∧ session.LaunchesQuietly shell ∧ shell.err.room = none ∧
      ∃ written, (session.runLine shell (bytes "cd $V")).2.err = ⟨written, none⟩ ∧
        written = bytes "cd: a\nb: No such file or directory" ++ [Bytes.newline] ∧
        ¬ (written = [] ∨ Bytes.IsLine written) := by
  intro host session shell
  refine ⟨by decide +kernel, fun _ => ⟨rfl, nofun⟩, rfl, _, by decide +kernel, rfl, ?_⟩
  rw [Bytes.isLine_append_newline]
  decide +kernel

end Session

end LineShell
