import LineShell.Host.Prepared
import LineShell.Proofs.Input.Lines
import LineShell.Proofs.Session.Deed
import LineShell.Store.Table

/-!
# The read loop is an iteration of lines

`Session.iterate` calls `runLine` on the lines of an input, with a prompt before each. The loop
over the input does the same (`run_eq_iterate`): the buffer, the size of the chunks and the
shortcut for empty lines do not show. `Session.Iterates` leaves the prompts out of the shell and
puts them between the outputs of the lines, which makes no difference in a sink without a bound.
-/

namespace LineShell

variable {σ κ ω : Type} [Store σ]

namespace Session

/-- Runs the lines in order, each after a prompt, up to and including the first that exits or is
fatal; if there is none, a last prompt is written. -/
def iterate (session : Session σ κ ω) (shell : Shell σ κ ω) : List Bytes → Int × Shell σ κ ω
  | [] => (shell.status, session.prompt shell)
  | line :: rest =>
    match session.runLine (session.prompt shell) line with
    | (.proceed, shell) => session.iterate shell rest
    | (.exit, shell) => (shell.status, shell)
    | (.fatal cause, shell) => (1, shell.report cause.message)

/-- Calling `runLine` on the lines in order, up to and including the first that exits or is fatal,
ends the session with a status and leaves a final shell. The bytes printed are a prompt before the
output of each line, and a last prompt if there is no such line. A fatal line leaves the status as
it was, and its cause is written as a line of diagnostics after all else. -/
inductive Iterates (session : Session σ κ ω) :
    Shell σ κ ω → List Bytes → Bytes → Int → Shell σ κ ω → Prop where
  | done (shell : Shell σ κ ω) :
      Iterates session shell [] session.config.prompt.utf8 shell.status shell
  | proceed {shell next final : Shell σ κ ω} {line own printed : Bytes} {rest : List Bytes}
      {status : Int} : session.runLine shell line = (.proceed, next) →
      next.out.accepted = shell.out.accepted ++ own →
      Iterates session next rest printed status final →
      Iterates session shell (line :: rest) (session.config.prompt.utf8 ++ own ++ printed) status
        final
  | exit {shell next : Shell σ κ ω} {line own : Bytes} (rest : List Bytes) :
      session.runLine shell line = (.exit, next) →
      next.out.accepted = shell.out.accepted ++ own →
      Iterates session shell (line :: rest) (session.config.prompt.utf8 ++ own) next.status next
  | fatal {shell next : Shell σ κ ω} {line own : Bytes} {cause : ShellError} (rest : List Bytes) :
      session.runLine shell line = (.fatal cause, next) →
      next.out.accepted = shell.out.accepted ++ own → next.status = shell.status →
      Iterates session shell (line :: rest) (session.config.prompt.utf8 ++ own) 1
        { next with err := next.err.write (cause.message.utf8 ++ [Bytes.newline]) }

/-! ## One turn of the loop -/

theorem runLine_nil (session : Session σ κ ω) (shell : Shell σ κ ω) :
    session.runLine shell [] = (.proceed, shell) := by
  have ht : tokenize session.config.maxTokens [] = [] := by simp [tokenize, split]
  simp only [runLine, parse, ht]
  rfl

theorem advance_eq (session : Session σ κ ω) (shell : Shell σ κ ω) (line : Bytes) :
    session.advance shell line =
      match session.runLine shell line with
      | (.proceed, shell) => (none, shell)
      | (.exit, shell) => (some shell.status, shell)
      | (.fatal cause, shell) => (some 1, shell.report cause.message) := by
  unfold advance
  cases line with
  | nil => simp only [List.isEmpty_nil, ↓reduceIte, runLine_nil]
  | cons b line => rfl

theorem run_of_line {session : Session σ κ ω} {shell : Shell σ κ ω} {input rest : Input}
    {buffer line : Bytes} (h : input.readLine buffer = (.line, line, rest)) :
    session.run shell input buffer =
      match session.advance (session.prompt shell) line with
      | (none, shell) => session.run shell rest line
      | (some status, shell) => (status, shell) := by
  rw [run]
  split
  · rename_i hl
    rw [h] at hl
    cases hl
    rfl
  · rename_i hl
    rw [h] at hl
    cases hl
  · rename_i hl
    rw [h] at hl
    cases hl

theorem run_of_done {session : Session σ κ ω} {shell : Shell σ κ ω} {input : Input}
    {buffer : Bytes} (h : input.lines = []) :
    session.run shell input buffer = (shell.status, session.prompt shell) := by
  obtain ⟨line, rest, hr⟩ := Input.readLine_done buffer h
  rw [run]
  split
  · rename_i hl
    rw [hr] at hl
    split at hl <;> cases hl
  · rfl
  · rfl

theorem iterate_cons (session : Session σ κ ω) (shell : Shell σ κ ω) (line : Bytes)
    (rest : List Bytes) :
    session.iterate shell (line :: rest) =
      match session.advance (session.prompt shell) line with
      | (none, shell) => session.iterate shell rest
      | (some status, shell) => (status, shell) := by
  rw [iterate, advance_eq]
  rcases session.runLine (session.prompt shell) line with ⟨outcome, next⟩
  cases outcome <;> rfl

theorem run_eq_iterate (session : Session σ κ ω) (shell : Shell σ κ ω) (input : Input)
    (buffer : Bytes) : session.run shell input buffer = session.iterate shell input.lines := by
  generalize hl : input.lines = lines
  induction lines generalizing shell input buffer with
  | nil => rw [run_of_done hl, iterate]
  | cons line more ih =>
    -- the line read is in the buffer of the next call, so the induction is over every buffer
    obtain ⟨rest, hr, hm⟩ := Input.readLine_line buffer hl
    rw [run_of_line hr, iterate_cons]
    rcases session.advance (session.prompt shell) line with ⟨ended, next⟩
    cases ended with
    | none => exact ih next rest line hm
    | some status => rfl

/-! ## Prompts apart -/

theorem status_of_fatal {session : Session σ κ ω} {shell next : Shell σ κ ω} {line : Bytes}
    {cause : ShellError} (h : session.runLine shell line = (.fatal cause, next)) :
    next.status = shell.status := by
  rw [runLine_eq_perform] at h
  cases ha : session.action shell.store line with
  | refuse cause => rw [ha] at h; cases h
  | nothing => rw [ha] at h; cases h
  | run command args =>
    rw [ha] at h
    rw [Shell.conclude_fatal h]
  | assign name value => rw [ha] at h; cases h
  | launch command =>
    rw [ha] at h
    rw [Shell.conclude_fatal h]
    rfl

/-- What a line does in sinks without a bound, whatever they have accepted before. -/
theorem runLine_of_room_none (session : Session σ κ ω) {shell : Shell σ κ ω} (line : Bytes)
    (h : shell.out.room = none) :
    ∃ own, ∀ accepted,
      session.runLine { shell with out := ⟨accepted, none⟩ } line =
        ((session.runLine shell line).1,
          { (session.runLine shell line).2 with out := ⟨accepted ++ own, none⟩ }) := by
  obtain ⟨own, outcome, after, ha⟩ := session.runLine_of_fits shell line
  have hs := ha shell.out (Sink.fits_of_room_none h own)
  refine ⟨own, fun accepted => ?_⟩
  rw [show ({ shell with out := shell.out } : Shell σ κ ω) = shell from rfl] at hs
  rw [hs, ha ⟨accepted, none⟩ rfl]
  rfl

theorem exists_iterates (session : Session σ κ ω) {shell : Shell σ κ ω} (lines : List Bytes)
    (h : shell.out.room = none) :
    ∃ printed status final, session.Iterates shell lines printed status final ∧
      ∀ accepted, session.iterate { shell with out := ⟨accepted, none⟩ } lines =
        (status, { final with out := ⟨accepted ++ printed, none⟩ }) := by
  induction lines generalizing shell with
  | nil => exact ⟨_, _, _, .done shell, fun accepted => rfl⟩
  | cons line rest ih =>
    obtain ⟨own, ho⟩ := session.runLine_of_room_none line h
    rcases hr : session.runLine shell line with ⟨outcome, next⟩
    rw [hr] at ho
    -- what the line does in the shell's own sink says what it has accepted afterwards
    have hn : next.out = ⟨shell.out.accepted ++ own, none⟩ := by
      have hs := ho shell.out.accepted
      rw [show ({ shell with out := ⟨shell.out.accepted, none⟩ } : Shell σ κ ω) = shell by
        rw [← h], hr] at hs
      exact congrArg (fun turn => turn.2.out) hs
    have ha : next.out.accepted = shell.out.accepted ++ own := by rw [hn]
    have hp (accepted : Bytes) : session.prompt { shell with out := ⟨accepted, none⟩ } =
        { shell with out := ⟨accepted ++ session.config.prompt.utf8, none⟩ } := rfl
    cases outcome with
    | proceed =>
      have hr' : next.out.room = none := by rw [hn]
      obtain ⟨printed, status, final, hi, he⟩ := ih hr'
      refine ⟨_, _, _, .proceed hr ha hi, fun accepted => ?_⟩
      rw [iterate, hp, ho]
      dsimp only
      rw [he, List.append_assoc, List.append_assoc, List.append_assoc]
    | exit =>
      refine ⟨_, _, _, .exit rest hr ha, fun accepted => ?_⟩
      rw [iterate, hp, ho, List.append_assoc]
    | fatal cause =>
      refine ⟨_, _, _, .fatal rest hr ha (status_of_fatal hr), fun accepted => ?_⟩
      rw [iterate, hp, ho, List.append_assoc]
      rfl

/-- **Reading an input is running its lines.** Of the input only its lines matter: neither the
sizes of the chunks nor what the buffer held before. Where the output has no bound, the session
ends as calling `runLine` on the lines does, in the same shell but for the prompts; that includes
the system, and so the launches in a system that records them. -/
theorem run_iterates (session : Session σ κ ω) (shell : Shell σ κ ω) (input : Input)
    (buffer : Bytes) :
    session.run shell input buffer = session.iterate shell input.lines ∧
      (shell.out.room = none → ∃ printed status final,
        session.Iterates shell input.lines printed status final ∧
          session.run shell input buffer =
            (status, { final with out := ⟨shell.out.accepted ++ printed, none⟩ })) := by
  have hr := session.run_eq_iterate shell input buffer
  refine ⟨hr, fun h => ?_⟩
  obtain ⟨printed, status, final, hi, he⟩ := session.exists_iterates input.lines h
  refine ⟨printed, status, final, hi, ?_⟩
  rw [hr, ← he shell.out.accepted, ← h]

/-- An empty line, and a last one that a read error cuts short, in chunks of three bytes. -/
theorem run_iterates_broken :
    let host : Host Unit Unit := .idle
    let session : Session Table (Prepared Unit) Unit := { host := host.prepared }
    let shell : Shell Table (Prepared Unit) Unit :=
      ⟨⟨.empty, (), .ofLimit none, .ofLimit none⟩, ⟨(), [.ok (.code 2)], []⟩, 0⟩
    let input : Input := ⟨bytes "V=1\n\nls $V\necho", [], 3, by decide, true⟩
    shell.out.room = none ∧ ∃ printed status final,
      session.Iterates shell input.lines printed status final ∧
        session.run shell input [] =
          (status, { final with out := ⟨shell.out.accepted ++ printed, none⟩ }) := by
  intro host session shell input
  exact ⟨rfl, (session.run_iterates shell input []).2 rfl⟩

end Session

end LineShell
