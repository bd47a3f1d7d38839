import LineShell.Expansion
import LineShell.Proofs.Store.Listed
import Mathlib.Data.List.Forall2
import Mathlib.Data.List.Nodup

/-!
# Stores that answer alike

Two stores have the same variables if both are sound and every name has one value in both
(`Store.SameVars`); in which order they keep them does not matter. Whatever is then asked of them,
one request after the other, they answer alike: `answers_same` allows a difference only in the
order of the entries of a snapshot.
-/

namespace LineShell

namespace Store

/-- What can be asked of a store. -/
inductive Request where
  | get (name : Bytes)
  | set (name value : Bytes)
  | snapshot
  | expand (limits : ExpansionLimits) (text : Bytes)

inductive Answer where
  | value (value : Option Bytes)
  | accepted
  | refused (cause : Errno)
  | entries (entries : List Bytes)
  | expanded (text : Bytes)
  | failed (cause : ExpansionError)
  deriving DecidableEq, Repr

/-- The same answer, up to the order of the entries of a snapshot. -/
inductive Answer.Same : Answer → Answer → Prop where
  | refl (answer : Answer) : Same answer answer
  | entries {first second : List Bytes} : first.Perm second →
      Same (.entries first) (.entries second)

section
variable {σ : Type} [Store σ]

/-- The answer to a request, and the store after it. -/
def ask (store : σ) : Request → Answer × σ
  | .get name => (.value (Store.get store name), store)
  | .set name value =>
    match Store.set store name value with
    | .ok after => (.accepted, after)
    | .error cause => (.refused cause, store)
  | .snapshot => (.entries (Store.snapshot store), store)
  | .expand limits text =>
    match limits.expand (Store.get store) text with
    | .ok text => (.expanded text, store)
    | .error cause => (.failed cause, store)

/-- The answers to requests that are made one after the other. -/
def answers (store : σ) : List Request → List Answer
  | [] => []
  | request :: rest => (ask store request).1 :: answers (ask store request).2 rest

end

end Store

/-! ## Variables in another order -/

section
variable {vars other : List (Bytes × Bytes)}

/-- Pairs with distinct names are determined, up to their order, by what is looked up in them. -/
theorem Table.perm_iff_lookup (h : (vars.map Prod.fst).Nodup) (h' : (other.map Prod.fst).Nodup) :
    vars.Perm other ↔ ∀ name, vars.lookup name = other.lookup name := by
  rw [List.perm_ext_iff_of_nodup h.of_map h'.of_map]
  constructor
  · intro hm name
    refine Option.ext fun value => ?_
    rw [lookup_eq_some_iff h, lookup_eq_some_iff h', hm]
  · rintro hl ⟨name, value⟩
    rw [← lookup_eq_some_iff h, ← lookup_eq_some_iff h', hl]

namespace Store.Sound

theorem perm (h : Sound vars) (hp : vars.Perm other) : Sound other where
  distinct := (hp.map Prod.fst).nodup h.distinct
  accepted p hm := h.accepted p (hp.mem_iff.2 hm)

theorem filterMap_entriesOf (h : Sound vars) :
    (entriesOf vars).filterMap (cutAt Bytes.equals) = vars := by
  unfold entriesOf
  rw [List.filterMap_map]
  have hm : vars.filterMap (cutAt Bytes.equals ∘ fun p => entry p.1 p.2) = vars.map id :=
    List.filterMap_eq_map_iff_forall_eq_some.2 fun p hp => h.cutAt_entry hp
  rw [hm, List.map_id]

end Store.Sound

end

/-! ## Stores with the same variables -/

namespace Store

variable {σ₁ σ₂ : Type} [Store σ₁] [ListedStore σ₁] [Store σ₂] [ListedStore σ₂]

/-- Stores whose variables are sound and the same, in whatever order. -/
structure SameVars (first : σ₁) (second : σ₂) : Prop where
  sound_first : Sound (ListedStore.vars first)
  sound_second : Sound (ListedStore.vars second)
  get : ∀ name, Store.get first name = Store.get second name

namespace SameVars

variable {first : σ₁} {second : σ₂}

theorem of_perm (h : Sound (ListedStore.vars first))
    (hp : (ListedStore.vars first).Perm (ListedStore.vars second)) : SameVars first second := by
  have h' := h.perm hp
  refine ⟨h, h', fun name => ?_⟩
  rw [ListedStore.get_of_sound h, ListedStore.get_of_sound h']
  exact (Table.perm_iff_lookup h.distinct h'.distinct).1 hp name

theorem vars_perm (h : SameVars first second) :
    (ListedStore.vars first).Perm (ListedStore.vars second) := by
  refine (Table.perm_iff_lookup h.sound_first.distinct h.sound_second.distinct).2 fun name => ?_
  rw [← ListedStore.get_of_sound h.sound_first, ← ListedStore.get_of_sound h.sound_second, h.get]

theorem snapshot_perm (h : SameVars first second) :
    (Store.snapshot first).Perm (Store.snapshot second) := by
  rw [ListedStore.snapshot_of_sound h.sound_first, ListedStore.snapshot_of_sound h.sound_second]
  exact h.vars_perm.map _

theorem ask_same (h : SameVars first second) (request : Request) :
    Answer.Same (Store.ask first request).1 (Store.ask second request).1 ∧
      SameVars (Store.ask first request).2 (Store.ask second request).2 := by
  have hg : Store.get first = Store.get second := funext h.get
  cases request with
  | get name =>
    dsimp only [Store.ask]
    rw [hg]
    exact ⟨.refl _, h⟩
  | set name value =>
    dsimp only [Store.ask]
    rcases set_agree name value fun n (_ : True) => h.get n with
      ⟨cause, h₁, h₂⟩ | ⟨first', second', h₁, h₂, hg⟩
    · rw [h₁, h₂]
      exact ⟨.refl _, h⟩
    · rw [h₁, h₂]
      exact ⟨.refl _, ListedStore.sound_of_set h.sound_first h₁,
        ListedStore.sound_of_set h.sound_second h₂, fun n => hg n trivial⟩
  | snapshot => exact ⟨.entries h.snapshot_perm, h⟩
  | expand limits text =>
    dsimp only [Store.ask]
    rw [hg]
    split
    · exact ⟨.refl _, h⟩
    · exact ⟨.refl _, h⟩

theorem answers_same (h : SameVars first second) (requests : List Request) :
    List.Forall₂ Answer.Same (answers first requests) (answers second requests) := by
  induction requests generalizing first second with
  | nil => exact .nil
  | cons request rest ih =>
    obtain ⟨ha, hn⟩ := h.ask_same request
    exact .cons ha (ih hn)

end SameVars

end Store

end LineShell
