import LineShell.Proofs.Session.History
import LineShell.Proofs.Store.Interchange

/-!
# Replaying a snapshot

An entry of a snapshot is a word that gives a variable its value, whether it stands alone or after
`export` (`dispatch_of_binds`). So dispatching the entries of a store one after the other, in any
order, fills an empty store with the same variables (`dispatchAll_snapshot`): the first equals sign
ends the name, and later ones belong to the value.
-/

namespace LineShell

variable {σ σ₁ σ₂ κ ω : Type}

/-! ## Entries in any order -/

namespace Store

theorem entriesOf_filterMap_cutAt {entries : List Bytes} (h : ∀ e ∈ entries, Bytes.equals ∈ e) :
    entriesOf (entries.filterMap (cutAt Bytes.equals)) = entries := by
  have hc : ∀ e ∈ entries,
      (cutAt Bytes.equals e).map (fun p => entry p.1 p.2) = some e := by
    intro e he
    cases hc : cutAt Bytes.equals e with
    | none => exact absurd (h e he) (cutAt_eq_none_iff.1 hc)
    | some p => exact congrArg some (cutAt_eq_some hc).1.symm
  unfold entriesOf
  rw [List.map_filterMap, List.filterMap_congr hc, List.filterMap_some]

/-- Entries in another order are those of the variables in that order. -/
theorem Sound.exists_perm {vars : List (Bytes × Bytes)} (h : Sound vars) {entries : List Bytes}
    (hp : entries.Perm (entriesOf vars)) :
    ∃ pairs, pairs.Perm vars ∧ entriesOf pairs = entries := by
  refine ⟨entries.filterMap (cutAt Bytes.equals), ?_, entriesOf_filterMap_cutAt fun e he => ?_⟩
  · have hm := hp.filterMap (cutAt Bytes.equals)
    rwa [h.filterMap_entriesOf] at hm
  · obtain ⟨p, -, rfl⟩ := List.mem_map.1 (hp.mem_iff.1 he)
    exact List.mem_append_right _ List.mem_cons_self

end Store

theorem Table.update_of_not_mem {name : Bytes} (value : Bytes) {vars : List (Bytes × Bytes)}
    (h : name ∉ vars.map Prod.fst) : update name value vars = vars ++ [(name, value)] := by
  induction vars with
  | nil => rfl
  | cons p rest ih =>
    rw [List.map_cons, List.mem_cons, not_or] at h
    rw [update, if_neg (Ne.symm h.1), ih h.2, List.cons_append]

/-! ## One entry -/

namespace Registry

section
variable [Store σ]

/-- Dispatches commands one after the other; the answers to them, and the scene at the end. -/
def dispatchAll (registry : Registry σ κ ω) (host : Host κ ω) (system : κ) (scene : Scene σ ω) :
    List (List Bytes) → List (Option Status) × Scene σ ω
  | [] => ([], scene)
  | words :: rest =>
    let (answer, next) := registry.dispatch host system words scene
    let (answers, last) := registry.dispatchAll host system next rest
    (answer :: answers, last)

theorem dispatchAll_cons {registry : Registry σ κ ω} {host : Host κ ω} {system : κ}
    {scene next last : Scene σ ω} {words : List Bytes} {rest : List (List Bytes)}
    {answer : Option Status} {answers : List (Option Status)}
    (h : registry.dispatch host system words scene = (answer, next))
    (hr : registry.dispatchAll host system next rest = (answers, last)) :
    registry.dispatchAll host system scene (words :: rest) = (answer :: answers, last) := by
  rw [dispatchAll, h]
  dsimp only
  rw [hr]

/-- A word that gives a variable a value does so alone and after `export`, and nothing else. -/
theorem dispatch_of_binds [LawfulStore σ] {word name value : Bytes} (config : Config)
    (host : Host κ ω) (system : κ) (scene : Scene σ ω) (h : Binds word name value) :
    ∃ store, Store.set scene.store name value = .ok store ∧
      (standard config).dispatch host system [word] scene =
        (some (.ok .unchanged), { scene with store }) ∧
      (standard config).dispatch host system [bytes "export", word] scene =
        (some (.ok (.code 0)), { scene with store }) := by
  obtain ⟨hc, ha, hv⟩ := binds_iff.1 h
  obtain ⟨store, hs, -⟩ := LawfulStore.set_of_accepted scene.store ha
  refine ⟨store, hs, ?_, ?_⟩
  · dsimp only [dispatch]
    rw [find?_standard, h.ofName?_eq_none, Option.map_none]
    dsimp only
    rw [h.assignment?_eq]
    dsimp only [Scene.assign]
    rw [if_neg (by rwa [List.isEmpty_iff]), hs]
  · have hf : (standard config : Registry σ κ ω).find? (bytes "export") = some .exportVar := by
      rw [find?_standard]
      rfl
    dsimp only [dispatch]
    rw [hf]
    dsimp only [Builtin.exportVar]
    rw [List.head?_cons, Option.bind_some, hc]
    dsimp only
    rw [if_neg h.not_isEmpty, hs]

end
end Registry

theorem Store.binds_entry {name value : Bytes} (h : accepts name value) (hv : value ≠ []) :
    Binds (entry name value) name value :=
  binds_iff.2 ⟨cutAt_entry value (validName_of_accepts h), h, hv⟩

/-! ## All entries -/

namespace Registry

/-- Entries for variables that are not there yet add these variables, in the same order. -/
theorem dispatchAll_entriesOf [Store σ] [ListedStore σ] (config : Config) (host : Host κ ω)
    (system : κ) (scene : Scene σ ω) {pairs : List (Bytes × Bytes)}
    (hs : Store.Sound (ListedStore.vars scene.store ++ pairs)) (hv : ∀ p ∈ pairs, p.2 ≠ []) :
    ∃ store, ListedStore.vars store = ListedStore.vars scene.store ++ pairs ∧
      (standard config).dispatchAll host system scene ((Store.entriesOf pairs).map ([·])) =
        (pairs.map fun _ => some (.ok .unchanged), { scene with store }) ∧
      (standard config).dispatchAll host system scene
          ((Store.entriesOf pairs).map ([bytes "export", ·])) =
        (pairs.map fun _ => some (.ok (.code 0)), { scene with store }) := by
  induction pairs generalizing scene with
  | nil => exact ⟨scene.store, (List.append_nil _).symm, rfl, rfl⟩
  | cons p rest ih =>
    obtain ⟨name, value⟩ := p
    rw [List.forall_mem_cons] at hv
    have ha : Store.accepts name value :=
      hs.accepted (name, value) (List.mem_append_right _ List.mem_cons_self)
    obtain ⟨next, hset, halone, hexport⟩ :=
      dispatch_of_binds config host system scene (Store.binds_entry ha hv.1)
    have hn : name ∉ (ListedStore.vars scene.store).map Prod.fst := by
      have hd := hs.distinct
      rw [List.map_append, List.nodup_append'] at hd
      exact fun hm => hd.2.2 hm List.mem_cons_self
    have hvars : ListedStore.vars next ++ rest =
        ListedStore.vars scene.store ++ (name, value) :: rest := by
      rw [ListedStore.vars_of_set hset, Table.update_of_not_mem value hn, List.append_assoc,
        List.singleton_append]
    rw [← hvars] at hs ⊢
    obtain ⟨last, hl, h₁, h₂⟩ := ih { scene with store := next } hs hv.2
    exact ⟨last, hl, dispatchAll_cons halone h₁, dispatchAll_cons hexport h₂⟩

/-- **A snapshot can be replayed.** Take a store whose variables an environment can hold, none of
them empty. Dispatching its entries one by one, in any order, gives an empty store the same
variables: each is `unchanged` as a command of its own, and has the code 0 after `export`. Nothing
else of the scene changes, so that nothing is printed. -/
theorem dispatchAll_snapshot [Store σ₁] [ListedStore σ₁] [Store σ₂] [ListedStore σ₂]
    (config : Config) (host : Host κ ω) (system : κ) {store : σ₁} (scene : Scene σ₂ ω)
    {entries : List Bytes} (hs : Store.Sound (ListedStore.vars store))
    (hv : ∀ p ∈ ListedStore.vars store, p.2 ≠ []) (he : ListedStore.vars scene.store = [])
    (hp : entries.Perm (Store.snapshot store)) :
    ∃ last, Store.SameVars store last ∧
      (standard config).dispatchAll host system scene (entries.map ([·])) =
        (entries.map fun _ => some (.ok .unchanged), { scene with store := last }) ∧
      (standard config).dispatchAll host system scene (entries.map ([bytes "export", ·])) =
        (entries.map fun _ => some (.ok (.code 0)), { scene with store := last }) := by
  rw [ListedStore.snapshot_of_sound hs] at hp
  obtain ⟨pairs, hpairs, rfl⟩ := hs.exists_perm hp
  have hsound : Store.Sound (ListedStore.vars scene.store ++ pairs) := by
    rw [he]
    exact hs.perm hpairs.symm
  obtain ⟨last, hl, h₁, h₂⟩ := dispatchAll_entriesOf config host system scene hsound
    fun p hm => hv p (hpairs.mem_iff.1 hm)
  rw [he, List.nil_append] at hl
  refine ⟨last, .of_perm hs (by rw [hl]; exact hpairs.symm), ?_, ?_⟩
  · rw [h₁, Store.entriesOf, List.map_map]
    rfl
  · rw [h₂, Store.entriesOf, List.map_map]
    rfl

/-- Values with equals signs and with a reference, which is not expanded, and a variable that has
the name of a command. -/
theorem dispatchAll_snapshot_reversed :
    let host : Host Unit Unit := .idle
    let registry : Registry Table Unit Unit := .standard {}
    let store := Table.ofList [(bytes "A", bytes "=1="), (bytes "exit", bytes "$A x")]
    let scene : Scene Table Unit := ⟨Table.empty, (), .ofLimit none, .ofLimit none⟩
    let entries := [bytes "exit=$A x", bytes "A==1="]
    (Store.Sound (ListedStore.vars store) ∧ (∀ p ∈ ListedStore.vars store, p.2 ≠ []) ∧
      ListedStore.vars scene.store = [] ∧ entries.Perm (Store.snapshot store)) ∧
    ∃ last, Store.SameVars store last ∧
      registry.dispatchAll host () scene [[bytes "exit=$A x"], [bytes "A==1="]] =
        ([some (.ok .unchanged), some (.ok .unchanged)], { scene with store := last }) ∧
      registry.dispatchAll host () scene
          [[bytes "export", bytes "exit=$A x"], [bytes "export", bytes "A==1="]] =
        ([some (.ok (.code 0)), some (.ok (.code 0))], { scene with store := last }) := by
  intro host registry store scene entries
  have hs : Store.Sound (ListedStore.vars store) := ⟨by decide, by decide⟩
  have hv : ∀ p ∈ ListedStore.vars store, p.2 ≠ [] := by decide
  have he : ListedStore.vars scene.store = [] := rfl
  have hp : entries.Perm (Store.snapshot store) := by decide
  exact ⟨⟨hs, hv, he, hp⟩, dispatchAll_snapshot {} host () scene hs hv he hp⟩

end Registry

end LineShell
