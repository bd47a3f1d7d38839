import LineShell.Proofs.Store.Lawful
import Mathlib.Data.List.Basic

/-!
# The variables of a store

A `ListedStore` says what its variables are, as pairs. As long as they are `Sound`, looking a name
up is looking it up among the pairs, and the snapshot has the entry of each pair and nothing else;
setting a variable keeps them sound (`Sound.update`). For the table the pairs are its own, and for
the list of entries they are what the entries say when each is cut at its first equals sign. If
only the names are sound (`Named`), a `NamedStore` leaves out of a snapshot what has a NUL.
-/

namespace LineShell

/-- Variables that an environment can hold, each name once; in a table no name is there twice
anyway. -/
structure Store.Sound (vars : List (Bytes × Bytes)) : Prop where
  distinct : (vars.map Prod.fst).Nodup
  accepted : ∀ p ∈ vars, Store.accepts p.1 p.2

/-- Variables with names that an environment can hold, each name once, whatever the values are. -/
structure Store.Named (vars : List (Bytes × Bytes)) : Prop where
  distinct : (vars.map Prod.fst).Nodup
  valid : ∀ p ∈ vars, Store.validName p.1

/-- The entries of the variables, in the same order. -/
def Store.entriesOf (vars : List (Bytes × Bytes)) : List Bytes :=
  vars.map fun p => Store.entry p.1 p.2

/-- The entries of those variables that can be handed to a child. -/
def Store.keptOf (vars : List (Bytes × Bytes)) : List Bytes :=
  (entriesOf vars).filter fun e => !e.hasNul

/-- The entries for one name: the ones with that name before their first equals sign. -/
def Store.entriesFor (name : Bytes) (entries : List Bytes) : List Bytes :=
  entries.filter fun e => (cutAt Bytes.equals e).map Prod.fst = some name

/-- A lawful store of which the variables can be listed. -/
class ListedStore (σ : Type) [Store σ] extends LawfulStore σ where
  vars : σ → List (Bytes × Bytes)
  get_of_sound {store : σ} (h : Store.Sound (vars store)) (name : Bytes) :
    Store.get store name = (vars store).lookup name
  snapshot_of_sound {store : σ} (h : Store.Sound (vars store)) :
    Store.snapshot store = Store.entriesOf (vars store)
  vars_of_set {store after : σ} {name value : Bytes}
    (h : Store.set store name value = .ok after) :
    vars after = Table.update name value (vars store)

/-- A listed store whose variables can be told by their names, whatever their values are. -/
class NamedStore (σ : Type) [Store σ] extends ListedStore σ where
  get_of_named {store : σ} (h : Store.Named (vars store)) (name : Bytes) :
    Store.get store name = (vars store).lookup name
  snapshot_of_named {store : σ} (h : Store.Named (vars store)) :
    Store.snapshot store = Store.keptOf (vars store)

/-- The entries of the variables: one for each, no two of them for one name, and every one cut at
its first equals sign into the name and the value of its variable. -/
structure Store.Lists (entries : List Bytes) (vars : List (Bytes × Bytes)) : Prop where
  length_eq : entries.length = vars.length
  nodup : entries.Nodup
  distinct : entries.Pairwise fun a b =>
    (cutAt Bytes.equals a).map Prod.fst ≠ (cutAt Bytes.equals b).map Prod.fst
  cut : entries.map (cutAt Bytes.equals) = vars.map some

/-! ## Pairs with distinct names -/

theorem Table.mem_update {name value : Bytes} {vars : List (Bytes × Bytes)} {p : Bytes × Bytes}
    (h : p ∈ update name value vars) : p = (name, value) ∨ p ∈ vars := by
  induction vars with
  | nil => exact .inl (List.mem_singleton.1 h)
  | cons q rest ih =>
    obtain ⟨n, v⟩ := q
    rw [update] at h
    split at h
    · rename_i hn
      rcases List.mem_cons.1 h with rfl | h
      · exact .inl (by rw [hn])
      · exact .inr (List.mem_cons_of_mem _ h)
    · rcases List.mem_cons.1 h with rfl | h
      · exact .inr List.mem_cons_self
      · exact (ih h).imp_right (List.mem_cons_of_mem _)

theorem Table.lookup_eq_some_iff {name value : Bytes} {vars : List (Bytes × Bytes)}
    (h : (vars.map Prod.fst).Nodup) : vars.lookup name = some value ↔ (name, value) ∈ vars := by
  induction vars with
  | nil => simp
  | cons q rest ih =>
    obtain ⟨n, v⟩ := q
    rw [List.map_cons, List.nodup_cons] at h
    rw [lookup_cons, List.mem_cons, Prod.mk.injEq]
    by_cases hn : name = n
    · subst hn
      have hr : name ∉ rest.map Prod.fst := h.1
      have hm : (name, value) ∉ rest := fun hm => hr (List.mem_map.2 ⟨_, hm, rfl⟩)
      simp [hm, eq_comm]
    · simp [hn, ih h.2]

theorem Table.filter_name {name value : Bytes} {vars : List (Bytes × Bytes)}
    (h : (vars.map Prod.fst).Nodup) (hl : vars.lookup name = some value) :
    vars.filter (·.1 = name) = [(name, value)] := by
  induction vars with
  | nil => cases hl
  | cons q rest ih =>
    obtain ⟨n, v⟩ := q
    rw [List.map_cons, List.nodup_cons] at h
    rw [lookup_cons] at hl
    split at hl
    · rename_i hn
      subst hn
      cases hl
      have hr : rest.filter (·.1 = name) = [] :=
        List.filter_eq_nil_iff.2 fun p hp he => h.1 (List.mem_map.2 ⟨p, hp, by simpa using he⟩)
      rw [List.filter_cons_of_pos (by simp), hr]
    · rename_i hn
      rw [List.filter_cons_of_neg (by simpa using Ne.symm hn), ih h.2 hl]

namespace Store.Named

variable {vars : List (Bytes × Bytes)}

theorem update {name : Bytes} (value : Bytes) (h : Named vars) (hn : validName name) :
    Named (Table.update name value vars) where
  distinct := Table.nodup_update h.distinct
  valid p hp := by
    rcases Table.mem_update hp with rfl | hp
    · exact hn
    · exact h.valid p hp

/-- A variable without a NUL has one entry among those of all variables. -/
theorem entriesFor_keptOf {name value : Bytes} (h : Named vars)
    (hl : vars.lookup name = some value) (hn : (entry name value).hasNul = false) :
    entriesFor name (keptOf vars) = [entry name value] := by
  have hc : ∀ p ∈ vars, decide ((cutAt Bytes.equals (entry p.1 p.2)).map Prod.fst = some name) =
      decide (p.1 = name) := by
    intro p hp
    simp only [Store.cutAt_entry p.2 (h.valid p hp), Option.map_some, Option.some_inj]
  have hv : (entriesOf vars).filter (fun e => (cutAt Bytes.equals e).map Prod.fst = some name) =
      [entry name value] := by
    unfold entriesOf
    rw [List.filter_map, Function.comp_def, List.filter_congr hc,
      Table.filter_name h.distinct hl]
    rfl
  unfold entriesFor keptOf
  rw [List.filter_comm, hv, List.filter_cons_of_pos (by rw [hn]; rfl), List.filter_nil]

end Store.Named

namespace Store.Sound

variable {vars : List (Bytes × Bytes)}

theorem update {name value : Bytes} (h : Sound vars) (ha : accepts name value) :
    Sound (Table.update name value vars) where
  distinct := Table.nodup_update h.distinct
  accepted p hp := by
    rcases Table.mem_update hp with rfl | hp
    · exact ha
    · exact h.accepted p hp

theorem cutAt_entry (h : Sound vars) {p : Bytes × Bytes} (hp : p ∈ vars) :
    cutAt Bytes.equals (entry p.1 p.2) = some p :=
  Store.cutAt_entry p.2 (validName_of_accepts (h.accepted p hp))

theorem named (h : Sound vars) : Named vars where
  distinct := h.distinct
  valid p hp := validName_of_accepts (h.accepted p hp)

theorem keptOf_eq (h : Sound vars) : keptOf vars = entriesOf vars := by
  refine List.filter_eq_self.2 fun e he => ?_
  obtain ⟨p, hp, rfl⟩ := List.mem_map.1 he
  rw [(accepts_iff.1 (h.accepted p hp)).2.2]
  rfl

theorem lists_entriesOf (h : Sound vars) : Lists (entriesOf vars) vars := by
  have hd : (entriesOf vars).Pairwise fun a b =>
      (cutAt Bytes.equals a).map Prod.fst ≠ (cutAt Bytes.equals b).map Prod.fst := by
    refine List.pairwise_map.2 ((List.pairwise_map.1 h.distinct).imp_of_mem ?_)
    intro p q hp hq hne
    rw [h.cutAt_entry hp, h.cutAt_entry hq]
    exact fun he => hne (Option.some.inj he)
  refine ⟨List.length_map _, hd.imp fun hne he => hne (by rw [he]), hd, ?_⟩
  unfold entriesOf
  rw [List.map_map]
  exact List.map_congr_left fun p hp => h.cutAt_entry hp

end Store.Sound

theorem ListedStore.sound_of_set {σ : Type} [Store σ] [ListedStore σ] {store after : σ}
    {name value : Bytes} (h : Store.Sound (vars store))
    (hs : Store.set store name value = .ok after) : Store.Sound (vars after) := by
  rw [vars_of_set hs]
  exact h.update (Store.accepts_of_set_ok hs)

theorem ListedStore.named_of_set {σ : Type} [Store σ] [ListedStore σ] {store after : σ}
    {name value : Bytes} (h : Store.Named (vars store))
    (hs : Store.set store name value = .ok after) : Store.Named (vars after) := by
  rw [vars_of_set hs]
  exact h.update value (Store.validName_of_accepts (Store.accepts_of_set_ok hs))

/-! ## The table -/

theorem Table.snapshot_eq (table : Table) : table.snapshot = Store.keptOf table.vars := by
  unfold snapshot Store.keptOf Store.entriesOf
  rw [List.filter_map, ← List.filterMap_eq_map, List.filterMap_filter]
  congr 1
  funext p
  unfold Store.entry?
  cases h : (Store.entry p.1 p.2).hasNul <;> simp [h]

instance : ListedStore Table where
  vars := Table.vars
  get_of_sound _ _ := rfl
  snapshot_of_sound {table} h := table.snapshot_eq.trans h.keptOf_eq
  vars_of_set {table after name value} h := by
    have ha := Store.accepts_of_set_ok h
    change Table.set table name value = .ok after at h
    rw [Table.set, if_pos ha] at h
    cases h
    rfl

instance : NamedStore Table where
  get_of_named _ _ := rfl
  snapshot_of_named {table} _ := table.snapshot_eq

/-! ## The list of entries -/

namespace Entries

/-- What the entries say; an entry without an equals sign says nothing. -/
def vars (entries : Entries) : List (Bytes × Bytes) :=
  entries.list.filterMap (cutAt Bytes.equals)

theorem value?_of_cutAt_none {name entry : Bytes} (h : cutAt Bytes.equals entry = none) :
    value? name entry = none := by
  refine Option.eq_none_iff_forall_ne_some.2 fun v hv => ?_
  rw [value?_eq_some_iff.1 hv] at h
  exact cutAt_eq_none_iff.1 h (List.mem_append_right _ List.mem_cons_self)

theorem value?_of_cutAt_some {n name value entry : Bytes} (hn : Bytes.equals ∉ n)
    (h : cutAt Bytes.equals entry = some (name, value)) :
    value? n entry = if n = name then some value else none := by
  obtain ⟨rfl, _⟩ := cutAt_eq_some h
  split
  · rename_i he
    exact value?_eq_some_iff.2 (he ▸ rfl)
  · rename_i hne
    refine Option.eq_none_iff_forall_ne_some.2 fun v hv => hne ?_
    rw [value?_eq_some_iff.1 hv, Store.entry, cutAt_append v hn] at h
    cases h
    rfl

theorem findSome?_eq_lookup {n : Bytes} (hn : Bytes.equals ∉ n) (list : List Bytes) :
    list.findSome? (value? n) = (list.filterMap (cutAt Bytes.equals)).lookup n := by
  induction list with
  | nil => rfl
  | cons e rest ih =>
    rw [List.findSome?_cons]
    cases hc : cutAt Bytes.equals e with
    | none => rw [value?_of_cutAt_none hc, List.filterMap_cons_none hc, ih]
    | some cut =>
      rw [value?_of_cutAt_some hn hc, List.filterMap_cons_some hc, Table.lookup_cons, ih]
      by_cases h : n = cut.1
      · rw [if_pos h, if_pos h]
      · rw [if_neg h, if_neg h]

theorem get_of_named {entries : Entries} (h : Store.Named entries.vars) (name : Bytes) :
    entries.get name = entries.vars.lookup name := by
  unfold get
  split
  · rename_i hv
    exact findSome?_eq_lookup (Store.not_mem_of_validName hv) entries.list
  · rename_i hv
    -- no variable has a name that the lookup refuses
    refine (Option.eq_none_iff_forall_ne_some.2 fun value hl => hv ?_).symm
    exact h.valid _ ((Table.lookup_eq_some_iff h.distinct).1 hl)

theorem wellFormed_entry {name : Bytes} (value : Bytes) (h : Store.validName name) :
    wellFormed (Store.entry name value) := by
  have hne : name ≠ [] := by
    rintro rfl
    cases h
  obtain ⟨b, rest, rfl⟩ := List.exists_cons_of_ne_nil hne
  simp [wellFormed, Store.entry]

theorem filter_wellFormed {list : List Bytes}
    (h : ∀ p ∈ list.filterMap (cutAt Bytes.equals), Store.validName p.1) :
    list.filter wellFormed = Store.entriesOf (list.filterMap (cutAt Bytes.equals)) := by
  induction list with
  | nil => rfl
  | cons e rest ih =>
    cases hc : cutAt Bytes.equals e with
    | none =>
      have ht : Bytes.equals ∉ e.tail := fun hm =>
        cutAt_eq_none_iff.1 hc (List.mem_of_mem_tail hm)
      rw [List.filterMap_cons_none hc] at h ⊢
      rw [← ih h, List.filter_cons_of_neg]
      simpa [wellFormed] using ht
    | some cut =>
      obtain ⟨name, value⟩ := cut
      rw [List.filterMap_cons_some hc] at h ⊢
      have hw : wellFormed (Store.entry name value) :=
        wellFormed_entry value (h _ List.mem_cons_self)
      have he : e = Store.entry name value := (cutAt_eq_some hc).1
      rw [he, List.filter_cons_of_pos hw, ih fun p hp => h p (List.mem_cons_of_mem _ hp)]
      rfl

theorem snapshot_of_named {entries : Entries} (h : Store.Named entries.vars) :
    entries.snapshot = Store.keptOf entries.vars := by
  unfold snapshot Store.keptOf vars
  rw [← filter_wellFormed h.valid, List.filter_filter]
  congr 1
  funext e
  exact Bool.and_comm _ _

theorem vars_update {name : Bytes} (value : Bytes) (h : Bytes.equals ∉ name) (list : List Bytes) :
    (update name value list).filterMap (cutAt Bytes.equals) =
      Table.update name value (list.filterMap (cutAt Bytes.equals)) := by
  have hv : cutAt Bytes.equals (Store.entry name value) = some (name, value) :=
    cutAt_append value h
  induction list with
  | nil => rw [update, List.filterMap_cons_some hv]; rfl
  | cons e rest ih =>
    rw [update]
    cases hc : cutAt Bytes.equals e with
    | none =>
      rw [value?_of_cutAt_none hc, if_neg (by decide), List.filterMap_cons_none hc,
        List.filterMap_cons_none hc, ih]
    | some cut =>
      obtain ⟨n, v⟩ := cut
      rw [value?_of_cutAt_some h hc, List.filterMap_cons_some hc, Table.update]
      by_cases hn : name = n
      · subst hn
        rw [if_pos rfl, if_pos rfl, Option.isSome_some, if_pos rfl, List.filterMap_cons_some hv]
      · rw [if_neg hn, if_neg (by decide), if_neg (Ne.symm hn), List.filterMap_cons_some hc, ih]

end Entries

instance : ListedStore Entries where
  vars := Entries.vars
  get_of_sound h name := Entries.get_of_named h.named name
  snapshot_of_sound h := (Entries.snapshot_of_named h.named).trans h.keptOf_eq
  vars_of_set {entries after name value} h := by
    have ha := Store.accepts_of_set_ok h
    change Entries.set entries name value = .ok after at h
    rw [Entries.set, if_pos ha] at h
    cases h
    exact Entries.vars_update value
      (Store.not_mem_of_validName (Store.validName_of_accepts ha)) entries.list

instance : NamedStore Entries where
  get_of_named h name := Entries.get_of_named h name
  snapshot_of_named h := Entries.snapshot_of_named h

end LineShell
