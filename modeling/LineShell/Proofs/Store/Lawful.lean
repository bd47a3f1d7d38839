import LineShell.Store.Entries
import LineShell.Store.Table

/-!
# What setting a variable does

In a `LawfulStore` setting a variable is refused exactly where `Store.accepts` says so, and
otherwise changes the value of that name and of no other. Both the table and the list of entries
are lawful; an entry is read back by the name before its first equals sign (`value?_entry`).
-/

namespace LineShell

/-- A store in which a variable has the value it was given last. -/
class LawfulStore (σ : Type) [Store σ] : Prop where
  set_of_refused {name value : Bytes} (store : σ) (h : Store.accepts name value = false) :
    Store.set store name value = .error .invalid
  set_of_accepted {name value : Bytes} (store : σ) (h : Store.accepts name value = true) :
    ∃ after, Store.set store name value = .ok after ∧
      ∀ n, Store.get after n = if n = name then some value else Store.get store n

namespace Store

theorem not_mem_of_validName {name : Bytes} (h : validName name = true) :
    Bytes.equals ∉ name := by
  unfold validName at h
  simp only [Bool.and_eq_true, Bool.not_eq_true', List.contains_eq_mem,
    decide_eq_false_iff_not] at h
  exact h.1.2

theorem validName_of_accepts {name value : Bytes} (h : accepts name value = true) :
    validName name = true := by
  unfold accepts at h
  exact (Bool.and_eq_true_iff.1 h).1

theorem hasNul_entry (name value : Bytes) :
    (entry name value).hasNul = (name.hasNul || value.hasNul) := by
  unfold entry Bytes.hasNul
  rw [List.contains_eq_mem, List.contains_eq_mem, List.contains_eq_mem, ← Bool.decide_or]
  have he : Bytes.nul ≠ Bytes.equals := by decide
  simp only [List.mem_append, List.mem_cons, he, false_or]

theorem accepts_iff {name value : Bytes} :
    accepts name value ↔ name ≠ [] ∧ Bytes.equals ∉ name ∧ (entry name value).hasNul = false := by
  rw [hasNul_entry]
  unfold accepts validName
  simp only [Bool.and_eq_true, Bool.not_eq_true', List.isEmpty_eq_false_iff,
    List.contains_eq_mem, decide_eq_false_iff_not, Bool.or_eq_false_iff, ne_eq, and_assoc]

theorem cutAt_entry {name : Bytes} (value : Bytes) (h : validName name = true) :
    cutAt Bytes.equals (entry name value) = some (name, value) :=
  cutAt_append value (not_mem_of_validName h)

theorem entry_inj {n m v w : Bytes} (hn : validName n = true) (hm : validName m = true)
    (h : entry n v = entry m w) : n = m ∧ v = w := by
  have hc := cutAt_entry v hn
  rw [h, cutAt_entry w hm] at hc
  cases hc
  exact ⟨rfl, rfl⟩

section
variable {σ : Type} [Store σ] [LawfulStore σ]

theorem accepts_of_set_ok {store after : σ} {name value : Bytes}
    (h : Store.set store name value = .ok after) : accepts name value := by
  cases ha : accepts name value with
  | true => rfl
  | false =>
    rw [LawfulStore.set_of_refused store ha] at h
    cases h

theorem get_of_set_ok {store after : σ} {name value : Bytes}
    (h : Store.set store name value = .ok after) (n : Bytes) :
    Store.get after n = if n = name then some value else Store.get store n := by
  obtain ⟨after', hs, hg⟩ := LawfulStore.set_of_accepted store (accepts_of_set_ok h)
  rw [h] at hs
  cases hs
  exact hg n

variable {σ' : Type} [Store σ'] [LawfulStore σ'] {visible : Bytes → Prop}

/-- Stores that agree on the visible variables still do when a variable is set in both, and both
refuse the same. -/
theorem set_agree {first : σ} {second : σ'} (name value : Bytes)
    (h : ∀ n, visible n → Store.get first n = Store.get second n) :
    (∃ cause, Store.set first name value = .error cause ∧
        Store.set second name value = .error cause) ∨
      ∃ first' second', Store.set first name value = .ok first' ∧
        Store.set second name value = .ok second' ∧
          ∀ n, visible n → Store.get first' n = Store.get second' n := by
  cases ha : Store.accepts name value with
  | false =>
    exact .inl ⟨_, LawfulStore.set_of_refused first ha, LawfulStore.set_of_refused second ha⟩
  | true =>
    obtain ⟨first', h₁, hg₁⟩ := LawfulStore.set_of_accepted first ha
    obtain ⟨second', h₂, hg₂⟩ := LawfulStore.set_of_accepted second ha
    refine .inr ⟨first', second', h₁, h₂, fun n hn => ?_⟩
    rw [hg₁, hg₂, h n hn]

end

end Store

instance : LawfulStore Table where
  set_of_refused table h := by
    show Table.set _ _ _ = _
    rw [Table.set, h]
    rfl
  set_of_accepted {name value} table h := by
    refine ⟨table.put name value, ?_, fun n => table.get_put name value n⟩
    show Table.set _ _ _ = _
    rw [Table.set, if_pos h]

namespace Entries

theorem value?_eq_some_iff {name value entry : Bytes} :
    value? name entry = some value ↔ entry = Store.entry name value := by
  have hl : (name ++ [Bytes.equals]).length = name.length + 1 := by simp
  have he : Store.entry name value = name ++ [Bytes.equals] ++ value := by simp [Store.entry]
  unfold value?
  rw [he]
  constructor
  · intro h
    split at h
    · rename_i hp
      obtain ⟨rest, rfl⟩ := List.isPrefixOf_iff_prefix.1 hp
      rw [← hl, List.drop_left] at h
      cases h
      rfl
    · cases h
  · rintro rfl
    rw [if_pos (List.isPrefixOf_iff_prefix.2 ⟨value, rfl⟩), ← hl, List.drop_left]

theorem value?_entry {n name : Bytes} (value : Bytes) (hn : Store.validName n = true)
    (hm : Store.validName name = true) :
    value? n (Store.entry name value) = if n = name then some value else none := by
  split
  · rename_i h
    exact value?_eq_some_iff.2 (h ▸ rfl)
  · rename_i h
    refine Option.eq_none_iff_forall_ne_some.2 fun v hv => ?_
    exact h (Store.entry_inj hm hn (value?_eq_some_iff.1 hv)).1.symm

theorem findSome?_update {n name : Bytes} (value : Bytes) (list : List Bytes)
    (hn : Store.validName n = true) (hm : Store.validName name = true) :
    (update name value list).findSome? (value? n) =
      if n = name then some value else list.findSome? (value? n) := by
  induction list with
  | nil =>
    rw [update, List.findSome?_singleton, value?_entry value hn hm]
    rfl
  | cons e rest ih =>
    rw [update, List.findSome?_cons]
    split
    · rename_i hs
      -- the entry that is replaced was one for `name`, so no other variable was read from it
      obtain ⟨old, ho⟩ := Option.isSome_iff_exists.1 hs
      rw [value?_eq_some_iff.1 ho, List.findSome?_cons, value?_entry value hn hm,
        value?_entry old hn hm]
      by_cases h : n = name
      · rw [if_pos h, if_pos h]
      · rw [if_neg h, if_neg h, if_neg h]
    · rename_i hs
      rw [List.findSome?_cons, ih]
      cases hv : value? n e with
      | none => rfl
      | some v =>
        have h : n ≠ name := fun h => hs (by rw [← h, hv]; rfl)
        exact (if_neg h).symm

end Entries

instance : LawfulStore Entries where
  set_of_refused entries h := by
    show Entries.set _ _ _ = _
    rw [Entries.set, h]
    rfl
  set_of_accepted {name value} entries h := by
    have hm := Store.validName_of_accepts h
    refine ⟨⟨Entries.update name value entries.list⟩, ?_, fun n => ?_⟩
    · show Entries.set _ _ _ = _
      rw [Entries.set, if_pos h]
    · show Entries.get _ _ = if n = name then some value else Entries.get _ _
      unfold Entries.get
      by_cases hn : Store.validName n
      · rw [if_pos hn, if_pos hn]
        exact Entries.findSome?_update value entries.list hn hm
      · have hne : n ≠ name := fun h => hn (h ▸ hm)
        rw [if_neg hn, if_neg hn, if_neg hne]

end LineShell
