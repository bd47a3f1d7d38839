import LineShell.Cli
import LineShell.Proofs.Session.Effect
import LineShell.Proofs.Session.ReadLoop

/-!
# Reading the console to its end

Every line that the program reads takes something from what the console has to be read
(`length_unread_readLine`). The commands may read from it, too. One that writes to it may keep the
program from coming to an end; if no command does so, the program ends (`runConsole_ends`).
-/

namespace LineShell

variable {σ κ ω : Type}

/-! ## What can become of a system -/

namespace Host

/-- What can become of a system: commands are launched in it, and in between others use it. -/
inductive Reaches (host : Host κ ω) (others : κ → κ → Prop) : κ → κ → Prop where
  | refl (system : κ) : Reaches host others system system
  | launch {system last : κ} (dir : ω) (command : Command) (view : View) :
      Reaches host others (host.launch system dir command view).system last →
      Reaches host others system last
  | used {system next last : κ} : others system next → Reaches host others next last →
      Reaches host others system last

end Host

namespace Session

/-- A line that has been read touches the system by no more than one launch. -/
theorem advance_system [Store σ] (session : Session σ κ ω) (shell : Shell σ κ ω) (line : Bytes) :
    (session.advance shell line).2.system = shell.system ∨
      ∃ command, (session.advance shell line).2.system =
        (session.host.launch shell.system shell.dir command (Store.view shell.store)).system := by
  have hs : (session.advance shell line).2.system = (session.runLine shell line).2.system := by
    rw [advance_eq]
    rcases session.runLine shell line with ⟨outcome, next⟩
    cases outcome <;> rfl
  rw [hs, runLine_eq_perform]
  rcases session.perform_system shell (session.action shell.store line) with
    ⟨_, hk⟩ | ⟨command, _, hl⟩
  · exact .inl hk
  · exact .inr ⟨command, hl⟩

end Session

namespace Cli

/-! ## What the console has to be read -/

section
variable {machine : Machine} {file : OpenFile} {content : Bytes}

theorem unread_of_file {mode : Nat} (hf : machine.file? 0 = some file) (hr : file.reads)
    (hn : machine.tree.node? file.node = some (.file content mode)) :
    unread machine = content.drop file.position := by
  have hu : machine.unread 0 = content.length - file.position := by
    simp only [Machine.unread, Machine.node?, hf, Option.bind_some, hn]
  simp only [unread, Machine.readAll, Machine.read, hf, hr, hn, hu, Bool.not_true,
    Bool.false_eq_true, ↓reduceIte, Except.toOption, Option.getD_some]
  exact List.take_of_length_le (Nat.le_of_eq List.length_drop)

theorem unread_of_pipe (hf : machine.file? 0 = some file) (hr : file.reads)
    (hn : machine.tree.node? file.node = some (.pipe content)) : unread machine = content := by
  have hu : machine.unread 0 = content.length := by
    simp only [Machine.unread, Machine.node?, hf, Option.bind_some, hn]
  simp only [unread, Machine.readAll, Machine.read, hf, hr, hn, hu, Bool.not_true,
    Bool.false_eq_true, ↓reduceIte, Except.toOption, Option.getD_some, List.take_length]

theorem unread_read_of_file {mode : Nat} (count : Nat) (hf : machine.file? 0 = some file)
    (hr : file.reads) (hn : machine.tree.node? file.node = some (.file content mode)) :
    unread (machine.read 0 count).2 = (unread machine).drop count := by
  let data := (content.drop file.position).take count
  let moved := { file with position := file.position + data.length }
  have hread : (machine.read 0 count).2 =
      { machine with opened := machine.opened.setIfInBounds 0 moved } := by
    unfold Machine.read
    rw [hf]
    dsimp only
    rw [if_neg (by simp [hr]), hn]
  have hmoved : (machine.read 0 count).2.file? 0 = some moved := by
    rw [hread]
    exact Array.getElem?_setIfInBounds_self_of_lt (Array.getElem?_eq_some_iff.1 hf).1
  have hnode : (machine.read 0 count).2.tree.node? moved.node = some (.file content mode) := by
    rw [hread]
    exact hn
  rw [unread_of_file hf hr hn, unread_of_file hmoved hr hnode, ← List.drop_drop]
  by_cases hc : count ≤ (content.drop file.position).length
  · rw [List.length_take_of_le hc]
  · have hl := Nat.le_of_not_le hc
    have hdata : data = content.drop file.position := List.take_of_length_le hl
    rw [hdata, List.drop_length, List.drop_eq_nil_of_le hl]

theorem unread_read_of_pipe (count : Nat) (hf : machine.file? 0 = some file) (hr : file.reads)
    (hn : machine.tree.node? file.node = some (.pipe content)) :
    unread (machine.read 0 count).2 = (unread machine).drop count := by
  have hread : (machine.read 0 count).2 =
      { machine with tree := machine.tree.setNode file.node (.pipe (content.drop count)) } := by
    unfold Machine.read
    rw [hf]
    dsimp only
    rw [if_neg (by simp [hr]), hn]
  have hnode : (machine.read 0 count).2.tree.node? file.node =
      some (.pipe (content.drop count)) := by
    rw [hread]
    exact Array.getElem?_setIfInBounds_self_of_lt (Array.getElem?_eq_some_iff.1 hn).1
  rw [unread_of_pipe hf hr hn, unread_of_pipe (by rw [hread]; exact hf) hr hnode]

end

/-- Reading takes the bytes from the front. A console that is no file and no pipe has none. -/
theorem unread_read (machine : Machine) (count : Nat) :
    unread (machine.read 0 count).2 = (unread machine).drop count := by
  cases hf : machine.file? 0 with
  | none => simp [unread, Machine.readAll, Machine.read, hf, Except.toOption]
  | some file =>
    cases hr : file.reads with
    | false => simp [unread, Machine.readAll, Machine.read, hf, hr, Except.toOption]
    | true =>
      cases hn : machine.tree.node? file.node with
      | none => simp [unread, Machine.readAll, Machine.read, hf, hr, hn, Except.toOption]
      | some node =>
        cases node with
        | file content mode => exact unread_read_of_file count hf hr hn
        | pipe content => exact unread_read_of_pipe count hf hr hn
        | device device =>
          cases device <;>
            simp [unread, Machine.readAll, Machine.read, Machine.unread, Machine.node?, hf, hr, hn,
              Except.toOption]
        | _ => simp [unread, Machine.readAll, Machine.read, hf, hr, hn, Except.toOption]

/-- A line takes at least one byte from the buffer or from the console. -/
theorem length_unread_readLine {machine next : Machine} {input rest : Input} {buffer line : Bytes}
    (h : readLine machine input buffer = (.line, line, rest, next)) :
    rest.buffered.length + (unread next).length <
      input.buffered.length + (unread machine).length := by
  unfold readLine at h
  dsimp only at h
  rcases hr : { input with unread := unread machine }.readLine buffer with ⟨outcome, read, after⟩
  rw [hr] at h
  cases h
  have hlt := Input.remaining_lt_of_readLine_eq_line hr
  unfold Input.remaining at hlt
  dsimp only at hlt ⊢
  rw [unread_read, List.length_drop]
  omega

/-! ## The lines of the console -/

/-- Some of what the console holds is read. -/
def Consumes (machine next : Machine) : Prop := ∃ count, next = (machine.read 0 count).2

theorem consumes_readLine {machine next : Machine} {input rest : Input} {buffer line : Bytes}
    {outcome : ReadOutcome} (h : readLine machine input buffer = (outcome, line, rest, next)) :
    Consumes machine next := by
  unfold readLine at h
  cases h
  exact ⟨_, rfl⟩

end Cli

/-- From this machine on, no command adds to what the console has to be read. -/
def Host.SparesConsole (host : Host Machine Nat) (machine : Machine) : Prop :=
  ∀ last, host.Reaches Cli.Consumes machine last → ∀ dir command view,
    (Cli.unread (host.launch last dir command view).system).length ≤ (Cli.unread last).length

namespace Host.SparesConsole

variable {host : Host Machine Nat} {machine next : Machine}

theorem launch (h : host.SparesConsole machine) (dir : Nat) (command : Command) (view : View) :
    host.SparesConsole (host.launch machine dir command view).system :=
  fun last hr => h last (.launch dir command view hr)

theorem used (h : host.SparesConsole machine) (hc : Cli.Consumes machine next) :
    host.SparesConsole next :=
  fun last hr => h last (.used hc hr)

end Host.SparesConsole

namespace Session

variable {session : Session Entries Machine Nat} {shell : Shell Entries Machine Nat}
  {input rest : Input} {buffer line : Bytes} {system : Machine}

theorem runConsole_of_line
    (h : Cli.readLine (session.prompt shell).system input buffer = (.line, line, rest, system)) :
    session.runConsole shell input buffer =
      match session.advance { session.prompt shell with system } line with
      | (none, shell) => session.runConsole shell rest line
      | (some status, shell) => some (status, shell) := by
  rw [runConsole, h]
  rfl

theorem runConsole_of_done {outcome : ReadOutcome}
    (h : Cli.readLine (session.prompt shell).system input buffer = (outcome, line, rest, system))
    (ho : outcome ≠ .line) :
    session.runConsole shell input buffer = some (shell.status, session.prompt shell) := by
  rw [runConsole, h]
  exact if_pos ho

/-- **The lines of the console come to an end** if no command adds to what there is to read. -/
theorem runConsole_ends (h : session.host.SparesConsole shell.system) (input : Input)
    (buffer : Bytes) : ∃ ended, session.runConsole shell input buffer = some ended := by
  -- by induction on what is left to read
  generalize hn : input.buffered.length + (Cli.unread shell.system).length = n
  induction n using Nat.strongRecOn generalizing shell input buffer with
  | _ n ih =>
    rcases hr : Cli.readLine (session.prompt shell).system input buffer with
      ⟨outcome, line, rest, system⟩
    by_cases ho : outcome = .line
    · subst ho
      have hlt : rest.buffered.length + (Cli.unread system).length < n :=
        hn ▸ Cli.length_unread_readLine hr
      have hs : session.host.SparesConsole system := h.used (Cli.consumes_readLine hr)
      rw [runConsole_of_line hr]
      rcases ha : session.advance { session.prompt shell with system } line with ⟨_ | status, next⟩
      · have hk := session.advance_system { session.prompt shell with system } line
        rw [ha] at hk
        rcases hk with hk | ⟨command, hk⟩
        · exact ih _ (hk ▸ hlt) (hk ▸ hs) rest line rfl
        · have hle := hs system (.refl system) shell.dir command (Store.view shell.store)
          refine ih _ ?_ ?_ rest line rfl
          · rw [hk]
            exact Nat.lt_of_le_of_lt (Nat.add_le_add_left hle _) hlt
          · rw [hk]
            exact hs.launch _ _ _
      · exact ⟨_, rfl⟩
    · rw [runConsole_of_done hr ho]
      exact ⟨_, rfl⟩

end Session

end LineShell
