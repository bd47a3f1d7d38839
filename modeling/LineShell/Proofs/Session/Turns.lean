import LineShell.Host.Prepared
import LineShell.Proofs.Session.Action
import Mathlib.Data.List.Forall2

/-!
# Turns of a session, and the launches in them

`Session.turns` runs lines one after the other, whatever they come to, and keeps the outcome of
each and the shell after it. Two sessions that are related before a line and after it are related
in all turns (`forall₂_turns`). A recording host keeps the commands launched; it stays unseen by
the session (`runLine_recording`).
-/

namespace LineShell

variable {σ σ₁ σ₂ κ κ₁ κ₂ ω ω₁ ω₂ : Type}

/-- Two results that have the same answer and related states. -/
def Alike {α β γ : Type} (Related : α → β → Prop) (first : γ × α) (second : γ × β) : Prop :=
  first.1 = second.1 ∧ Related first.2 second.2

/-- A system and the commands launched in it so far, in order. -/
structure Recorded (κ : Type) where
  base : κ
  calls : List Command := []

namespace Host

/-- The host that does the same and records every command launched. -/
def recording (host : Host κ ω) : Host (Recorded κ) ω where
  enter system := host.enter system.base
  path system := host.path system.base
  launch system dir command view :=
    let reply := host.launch system.base dir command view
    ⟨reply.status, reply.out, reply.err, ⟨reply.system, system.calls ++ [command]⟩⟩
  grants := host.grants

/-- What a launch comes to does not depend on the variables. -/
def Blind (host : Host κ ω) : Prop :=
  ∀ system dir command first second,
    host.launch system dir command first = host.launch system dir command second

theorem Blind.recording {host : Host κ ω} (h : host.Blind) : host.recording.Blind := by
  intro system dir command first second
  dsimp only [Host.recording]
  rw [h system.base dir command first second]

theorem blind_prepared (host : Host κ ω) : host.prepared.Blind := fun _ _ _ _ _ => rfl

end Host

/-- The shell in the system without the record. -/
def Shell.unrecorded (shell : Shell σ (Recorded κ) ω) : Shell σ κ ω :=
  { toScene := shell.toScene, system := shell.system.base, status := shell.status }

theorem Shell.conclude_unrecorded (shell : Shell σ (Recorded κ) ω) (status : Status) :
    shell.unrecorded.conclude status =
      ((shell.conclude status).1, (shell.conclude status).2.unrecorded) := by
  cases status with
  | ok outcome => cases outcome <;> rfl
  | error cause =>
    unfold conclude
    dsimp only
    split <;> rfl

variable [Store σ] [Store σ₁] [Store σ₂]

namespace Session

/-- Runs the lines in order, also after one that exits or is fatal. -/
def turns (session : Session σ κ ω) (shell : Shell σ κ ω) :
    List Bytes → List (LineOutcome × Shell σ κ ω)
  | [] => []
  | line :: rest =>
    let turn := session.runLine shell line
    turn :: session.turns turn.2 rest

theorem forall₂_turns {session₁ : Session σ₁ κ₁ ω₁} {session₂ : Session σ₂ κ₂ ω₂}
    {Related : Shell σ₁ κ₁ ω₁ → Shell σ₂ κ₂ ω₂ → Prop} {lines : List Bytes}
    (hs : ∀ line ∈ lines, ∀ first second, Related first second →
      Alike Related (session₁.runLine first line) (session₂.runLine second line))
    {first : Shell σ₁ κ₁ ω₁} {second : Shell σ₂ κ₂ ω₂} (h : Related first second) :
    List.Forall₂ (Alike Related) (session₁.turns first lines) (session₂.turns second lines) := by
  induction lines generalizing first second with
  | nil => exact .nil
  | cons line rest ih =>
    have ht := hs line List.mem_cons_self first second h
    exact .cons ht (ih (fun l hl => hs l (List.mem_cons_of_mem line hl)) ht.2)

/-- The session whose launches are recorded. -/
def recording (session : Session σ κ ω) : Session σ (Recorded κ) ω :=
  ⟨session.host.recording, session.config⟩

theorem run_recording (session : Session σ κ ω) (command : Standard) (system : Recorded κ)
    (args : List Bytes) (scene : Scene σ ω) :
    (command.builtin session.recording.config).run session.recording.host system args scene =
      (command.builtin session.config).run session.host system.base args scene := by
  cases command <;> rfl

theorem perform_recording (session : Session σ κ ω) (shell : Shell σ (Recorded κ) ω)
    (action : Action) :
    session.perform shell.unrecorded action =
      ((session.recording.perform shell action).1,
        (session.recording.perform shell action).2.unrecorded) := by
  cases action with
  | refuse cause => rfl
  | nothing => rfl
  | run command args =>
    rw [perform_run, perform_run, run_recording]
    exact Shell.conclude_unrecorded ⟨_, shell.system, shell.status⟩ _
  | assign name value => rfl
  | launch command =>
    let reply := session.recording.host.launch shell.system shell.dir command
      (Store.view shell.store)
    exact (shell.receive reply).conclude_unrecorded reply.status

/-- A session does not see that its launches are recorded. -/
theorem runLine_recording (session : Session σ κ ω) (shell : Shell σ (Recorded κ) ω)
    (line : Bytes) :
    session.runLine shell.unrecorded line =
      ((session.recording.runLine shell line).1,
        (session.recording.runLine shell line).2.unrecorded) := by
  rw [runLine_eq_perform, runLine_eq_perform, perform_recording]
  rfl

end Session

end LineShell
