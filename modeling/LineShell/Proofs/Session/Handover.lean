import LineShell.Launch.Plan
import LineShell.Proofs.Session.History
import LineShell.Proofs.Store.Listed

/-!
# The variables that a child receives

A line sets only variables that an environment can hold, so variables that are sound before a
session are sound after every line of it (`sound_after`). The next launch is then given a snapshot
that lists them exactly (`launch_after_lists`): no variable is lost or there twice, and an equals
sign in a value is not taken for the end of the name.
-/

namespace LineShell

theorem LaunchPlan.environment_of_prepare {command : Command} {view : View} {plan : LaunchPlan}
    (h : prepare command view = .ok plan) : plan.environment.read = view.snapshot := by
  unfold prepare at h
  split at h
  · cases h
  · cases h
    exact ArgVector.read_ofList view.snapshot

variable {σ κ ω : Type} [Store σ]

namespace Session

theorem runLine_of_launch {session : Session σ κ ω} {shell : Shell σ κ ω} {line : Bytes}
    {command : Command} (h : session.action shell.store line = .launch command) :
    session.runLine shell line =
      let reply := session.host.launch shell.system shell.dir command (Store.view shell.store)
      (shell.receive reply).conclude reply.status := by
  rw [runLine_eq_perform, h]
  rfl

variable [ListedStore σ]

theorem sound_runLine (session : Session σ κ ω) {shell : Shell σ κ ω} (line : Bytes)
    (h : Store.Sound (ListedStore.vars shell.store)) :
    Store.Sound (ListedStore.vars (session.runLine shell line).2.store) :=
  session.runLine_preserves ListedStore.sound_of_set line h

theorem sound_after (session : Session σ κ ω) {shell : Shell σ κ ω} (lines : List Bytes)
    (h : Store.Sound (ListedStore.vars shell.store)) :
    Store.Sound (ListedStore.vars (session.after shell lines).store) :=
  session.after_preserves ListedStore.sound_of_set lines h

/-- **Children receive exactly the shell's variables.** If an environment can hold the variables
that a session starts with, it can hold those after any lines. Looking a name up finds it among
them, and the snapshot that the next launch is given lists them; it becomes the environment of the
child. -/
theorem launch_after_lists (session : Session σ κ ω) (shell : Shell σ κ ω) (lines : List Bytes)
    (h : Store.Sound (ListedStore.vars shell.store)) :
    let last := session.after shell lines
    let vars := ListedStore.vars last.store
    let view := Store.view last.store
    Store.Sound vars ∧ (∀ name, Store.get last.store name = vars.lookup name) ∧
      Store.Lists view.snapshot vars ∧
      ∀ line command, session.action last.store line = .launch command →
        (session.runLine last line =
          let reply := session.host.launch last.system last.dir command view
          (last.receive reply).conclude reply.status) ∧
        ∀ plan, LaunchPlan.prepare command view = .ok plan →
          plan.environment.read = view.snapshot := by
  intro last vars view
  have hs : Store.Sound vars := session.sound_after lines h
  have hv : view.snapshot = Store.entriesOf vars := ListedStore.snapshot_of_sound hs
  refine ⟨hs, ListedStore.get_of_sound hs, ?_, fun line command ha => ⟨runLine_of_launch ha, ?_⟩⟩
  · rw [hv]
    exact hs.lists_entriesOf
  · exact fun plan hp => LaunchPlan.environment_of_prepare hp

/-- A value with an equals sign, one with a NUL that is refused, and an empty one that is ignored;
the line after them launches. -/
theorem launch_after_lists_export :
    let host : Host Unit Unit := .idle
    let session : Session Table Unit Unit := ⟨host, {}⟩
    let shell : Shell Table Unit Unit :=
      ⟨⟨Table.empty.put (bytes "A") (bytes "0"), (), .ofLimit none, .ofLimit none⟩, (), 0⟩
    let lines := [bytes "AB=$A=x", bytes "C=\x00", bytes "export A=1", bytes "D="]
    let last := session.after shell lines
    let command : Command := ⟨[⟨bytes "ls", true⟩, ⟨bytes "0=x", false⟩], []⟩
    Store.Sound (ListedStore.vars shell.store) ∧
      ListedStore.vars last.store = [(bytes "A", bytes "1"), (bytes "AB", bytes "0=x")] ∧
      Store.Lists (Store.view last.store).snapshot (ListedStore.vars last.store) ∧
      session.action last.store (bytes "ls $AB") = .launch command ∧
      ∀ plan, LaunchPlan.prepare command (Store.view last.store) = .ok plan →
        plan.environment.read = [bytes "A=1", bytes "AB=0=x"] := by
  intro host session shell lines last command
  have hs : Store.Sound (ListedStore.vars shell.store) := ⟨by decide, by decide⟩
  have ha : session.action last.store (bytes "ls $AB") = .launch command := by decide +kernel
  obtain ⟨_, _, hl, hn⟩ := session.launch_after_lists shell lines hs
  refine ⟨hs, by decide +kernel, hl, ha, fun plan hp => ?_⟩
  rw [(hn _ command ha).2 plan hp]
  decide +kernel

end Session

end LineShell
