import LineShell.Proofs.Session.Handover
import LineShell.Proofs.Session.Unnamed
import LineShell.Proofs.Store.Interchange

/-!
# The two stores are interchangeable

A table and a list of entries that start with the same variables answer alike, and a session over
the one cannot be told from a session over the other (`interchange`). Only the order of the entries
in a snapshot may differ, so that the host must not look at it (`Host.Orderless`).
-/

namespace LineShell

variable {σ₁ σ₂ κ ω : Type}

/-- What a launch comes to does not depend on the order of the entries in the snapshot. -/
def Host.Orderless (host : Host κ ω) : Prop :=
  ∀ system dir command (first second : View), first.get = second.get →
    first.snapshot.Perm second.snapshot →
      host.launch system dir command first = host.launch system dir command second

theorem Host.Orderless.recording {host : Host κ ω} (h : host.Orderless) :
    host.recording.Orderless := by
  intro system dir command first second hg hp
  dsimp only [Host.recording]
  rw [h system.base dir command first second hg hp]

theorem Host.Blind.orderless {host : Host κ ω} (h : host.Blind) : host.Orderless :=
  fun system dir command first second _ _ => h system dir command first second

variable [Store σ₁] [ListedStore σ₁] [Store σ₂] [ListedStore σ₂]

/-- Shells whose stores have the same variables, and that nothing else tells apart. -/
structure Shell.Matches (first : Shell σ₁ κ ω) (second : Shell σ₂ κ ω) : Prop where
  vars : Store.SameVars first.store second.store
  agree : first.Agree (fun _ => True) second

theorem Shell.Matches.launch_eq {host : Host κ ω} (ho : host.Orderless)
    {first : Shell σ₁ κ ω} {second : Shell σ₂ κ ω} (h : first.Matches second) (system : κ)
    (dir : ω) (command : Command) :
    host.launch system dir command (Store.view first.store) =
      host.launch system dir command (Store.view second.store) :=
  ho system dir command _ _ (funext h.vars.get) h.vars.snapshot_perm

namespace Session

theorem runLine_matches {host : Host κ ω} {config : Config} {first : Shell σ₁ κ ω}
    {second : Shell σ₂ κ ω} (ho : host.Orderless) (h : first.Matches second) (line : Bytes) :
    Alike Shell.Matches (Session.runLine ⟨host, config⟩ first line)
      (Session.runLine ⟨host, config⟩ second line) := by
  have ha := action_congr host fun name (_ : config.Refers line name) => h.vars.get name
  have hr : Alike (Shell.Agree fun _ => True) (Session.runLine ⟨host, config⟩ first line)
      (Session.runLine ⟨host, config⟩ second line) := by
    rw [runLine_eq_perform, runLine_eq_perform, ha]
    exact perform_agree (h.launch_eq ho _ _) trivial h.agree _
  refine ⟨hr.1, ⟨?_, ?_, fun name => hr.2.get name trivial⟩, hr.2⟩
  · exact sound_runLine ⟨host, config⟩ line h.vars.sound_first
  · exact sound_runLine ⟨host, config⟩ line h.vars.sound_second

/-- **The two stores are interchangeable.** Start a list of entries and a table from the same
variables, in whatever order: all requests have the same answers from both, and in two sessions
over them all lines have the same outcome, status, outputs, working directory and launches, over a
host that does not look at the order of the entries. -/
theorem interchange {vars : List (Bytes × Bytes)} {entries : Entries} {table : Table}
    (hv : Store.Sound vars) (he : entries.list.Perm (Store.entriesOf vars))
    (ht : table.vars.Perm vars) :
    (∀ requests, List.Forall₂ Store.Answer.Same (Store.answers entries requests)
      (Store.answers table requests)) ∧
    ∀ {κ ω : Type} (host : Host κ ω) (config : Config) (dir : ω) (out err : Sink)
      (system : Recorded κ) (status : Int) (lines : List Bytes), host.Orderless →
      List.Forall₂ (Alike Shell.Matches)
        ((Session.mk host config).recording.turns ⟨⟨entries, dir, out, err⟩, system, status⟩ lines)
        ((Session.mk host config).recording.turns ⟨⟨table, dir, out, err⟩, system, status⟩
          lines) := by
  have hl : entries.vars.Perm vars := by
    have hp := he.filterMap (cutAt Bytes.equals)
    rwa [hv.filterMap_entriesOf] at hp
  have hs : Store.SameVars entries table := .of_perm (hv.perm hl.symm) (hl.trans ht.symm)
  refine ⟨hs.answers_same, ?_⟩
  intro κ ω host config dir out err system status lines ho
  refine forall₂_turns (fun line _ first second h => runLine_matches ho.recording h line) ?_
  exact ⟨hs, ⟨fun name _ => hs.get name, rfl, rfl, rfl⟩, rfl, rfl⟩

/-- Names that begin alike, in different orders; the lines set one and launch with the other. -/
theorem interchange_prefix :
    let host : Host (Prepared Unit) Unit := Host.idle.prepared
    let vars := [(bytes "A", bytes "1"), (bytes "AB", bytes "=")]
    let entries : Entries := ⟨[bytes "AB==", bytes "A=1"]⟩
    let table := Table.ofList vars
    let requests : List Store.Request := [.get (bytes "A="), .get [], .set (bytes "A=") (bytes "2"),
      .set (bytes "A") (bytes "2"), .get (bytes "AB"),
      .expand { capacity := 8, nameMax := 8 } (bytes "$A$AB"), .snapshot]
    let system : Recorded (Prepared Unit) := ⟨⟨(), [.ok (.code 2)], []⟩, []⟩
    let lines := [bytes "A=$AB", bytes "ls $A", bytes "exit"]
    (Store.Sound vars ∧ entries.list.Perm (Store.entriesOf vars) ∧ table.vars.Perm vars ∧
      host.Orderless) ∧
    List.Forall₂ Store.Answer.Same (Store.answers entries requests)
      (Store.answers table requests) ∧
    List.Forall₂ (Alike Shell.Matches)
      ((Session.mk host {}).recording.turns
        ⟨⟨entries, (), .ofLimit none, .ofLimit none⟩, system, 0⟩ lines)
      ((Session.mk host {}).recording.turns
        ⟨⟨table, (), .ofLimit none, .ofLimit none⟩, system, 0⟩ lines) := by
  intro host vars entries table requests system lines
  have hv : Store.Sound vars := ⟨by decide, by decide⟩
  have he : entries.list.Perm (Store.entriesOf vars) := by decide
  have ht : table.vars.Perm vars := by decide
  have ho : host.Orderless := (Host.blind_prepared _).orderless
  obtain ⟨ha, hl⟩ := interchange hv he ht
  exact ⟨⟨hv, he, ht, ho⟩, ha requests, hl host {} () _ _ system 0 lines ho⟩

end Session

end LineShell
