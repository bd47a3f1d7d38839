import LineShell.Proofs.Command.Rendering
import LineShell.Proofs.Session.History
import LineShell.Proofs.Session.Structure
import LineShell.Proofs.Session.Unnamed
import LineShell.Proofs.Store.Listed

/-!
# Assignments that commute

A line NAME=TEXT in which the name is written out (`AssignmentLine`) asks for an assignment to that
name, of what TEXT expands to in the room that is left after the equals sign. An assignment to
another variable does not change this unless TEXT refers to that variable (`action_after_assign`),
and two assignments to different names leave the same shell in either order, even if one is refused
or has no value (`Scene.assign_agree`). So two such lines commute if neither refers to the name of
the other (`assignments_commute`).
-/

namespace LineShell

variable {σ κ ω : Type}

/-! ## Two assignments -/

theorem Table.update_update_perm {n m : Bytes} (h : n ≠ m) (v w : Bytes)
    (vars : List (Bytes × Bytes)) :
    (update n v (update m w vars)).Perm (update m w (update n v vars)) := by
  induction vars with
  | nil =>
    simp only [update, if_neg h, if_neg h.symm]
    exact .swap _ _ _
  | cons p rest ih =>
    obtain ⟨k, x⟩ := p
    by_cases hn : k = n
    · subst hn
      simp only [update, if_neg h, ↓reduceIte]
      exact .refl _
    · by_cases hm : k = m
      · subst hm
        simp only [update, if_neg hn, ↓reduceIte]
        exact .refl _
      · simp only [update, if_neg hn, if_neg hm]
        exact ih.cons _

namespace Scene

variable [Store σ]

/-- The assignment sets the variable: its value is not empty, and an environment can hold both. -/
def Takes (name value : Bytes) : Prop := value ≠ [] ∧ Store.accepts name value

instance (name value : Bytes) : Decidable (Takes name value) := instDecidableAnd

theorem assign_frame (scene : Scene σ ω) (name value : Bytes) :
    (scene.assign name value).dir = scene.dir ∧ (scene.assign name value).out = scene.out := by
  unfold assign
  split
  · exact ⟨rfl, rfl⟩
  · split <;> exact ⟨rfl, rfl⟩

section
variable [LawfulStore σ]

theorem set_assign (scene : Scene σ ω) {name value : Bytes} (h : Takes name value) :
    Store.set scene.store name value = .ok (scene.assign name value).store :=
  Scene.assign_of_accepted h.2 h.1

theorem store_assign_of_not (scene : Scene σ ω) {name value : Bytes} (h : ¬ Takes name value) :
    (scene.assign name value).store = scene.store :=
  (scene.assign_store name value).resolve_right fun ht => h ht.symm

theorem get_assign (scene : Scene σ ω) (name value n : Bytes) :
    Store.get (scene.assign name value).store n =
      if n = name ∧ Takes name value then some value else Store.get scene.store n := by
  by_cases h : Takes name value
  · simp only [Store.get_of_set_ok (scene.set_assign h), h, and_true]
  · simp only [scene.store_assign_of_not h, h, and_false, ↓reduceIte]

/-- Only what the store refuses is reported, in the same words for all names. -/
theorem err_assign (scene : Scene σ ω) (name value : Bytes) :
    (scene.assign name value).err =
      if value = [] ∨ Store.accepts name value then scene.err
      else scene.err.writeLine ("variable assignment failed: ".toList ++ Errno.invalid.desc) := by
  unfold assign
  by_cases hv : value = []
  · simp only [hv, List.isEmpty_nil, ↓reduceIte, true_or]
  · rw [if_neg (by rwa [List.isEmpty_iff])]
    by_cases ha : Store.accepts name value
    · obtain ⟨after, hs, -⟩ := LawfulStore.set_of_accepted scene.store ha
      rw [hs, if_pos (.inr ha)]
    · have hs := LawfulStore.set_of_refused scene.store (Bool.eq_false_iff.2 ha)
      rw [hs, if_neg (not_or_intro hv ha)]
      rfl

/-- Assignments to two names come to the same in either order, whatever becomes of each. -/
theorem assign_agree (scene : Scene σ ω) {n m : Bytes} (h : n ≠ m) (v w : Bytes) :
    ((scene.assign n v).assign m w).Agree (fun _ => True) ((scene.assign m w).assign n v) where
  get name _ := by
    simp only [get_assign]
    by_cases hn : name = n
    · subst hn
      simp [h]
    · simp [hn]
  dir := by simp only [assign_frame]
  out := by simp only [assign_frame]
  err := by
    simp only [err_assign]
    split <;> split <;> rfl

end

theorem vars_assign [ListedStore σ] (scene : Scene σ ω) (name value : Bytes) :
    ListedStore.vars (scene.assign name value).store =
      if Takes name value then Table.update name value (ListedStore.vars scene.store)
      else ListedStore.vars scene.store := by
  by_cases h : Takes name value
  · rw [if_pos h, ListedStore.vars_of_set (scene.set_assign h)]
  · rw [if_neg h, scene.store_assign_of_not h]

theorem vars_assign_perm [ListedStore σ] (scene : Scene σ ω) {n m : Bytes} (h : n ≠ m)
    (v w : Bytes) :
    (ListedStore.vars ((scene.assign n v).assign m w).store).Perm
      (ListedStore.vars ((scene.assign m w).assign n v).store) := by
  simp only [vars_assign]
  by_cases hn : Takes n v
  · by_cases hm : Takes m w
    · simp only [if_pos hn, if_pos hm]
      exact Table.update_update_perm h.symm w v _
    · simp only [if_pos hn, if_neg hm]
      exact .refl _
  · simp only [if_neg hn]
    exact .refl _

end Scene

/-! ## Lines that assign -/

section
variable {nameMax : Nat} {first : Bytes}

theorem Piece.ofText_append_of_not_mem (h : Bytes.dollar ∉ first) (second : Bytes) :
    ofText nameMax (first ++ second) = first.map .byte ++ ofText nameMax second := by
  induction first with
  | nil => rfl
  | cons b first ih =>
    rw [List.mem_cons, not_or] at h
    rw [List.cons_append, ofText_byte fun hb => h.1 hb.1.symm, ih h.2, List.map_cons,
      List.cons_append]

theorem substitute_append_of_not_mem (lookup : Bytes → Option Bytes) (h : Bytes.dollar ∉ first)
    (second : Bytes) :
    substitute nameMax lookup (first ++ second) = first ++ substitute nameMax lookup second := by
  have hf : (first.map Piece.byte).flatMap (Piece.value lookup) = first := by
    rw [List.flatMap_map]
    exact List.flatMap_singleton' first
  unfold substitute
  rw [Piece.ofText_append_of_not_mem h, List.flatMap_append, hf]

end

/-- The line NAME=TEXT has one token, in which the name is written out and comes before the first
equals sign, and has room for the name and the equals sign at least. -/
structure AssignmentLine (limits : ExpansionLimits) (name text : Bytes) : Prop where
  name_ne_nil : name ≠ []
  equals_not_mem : Bytes.equals ∉ name
  dollar_not_mem : Bytes.dollar ∉ name
  space_not_mem : Bytes.space ∉ Store.entry name text
  fits : name.length < limits.capacity

/-- What the text of the line comes to, as far as there is room after the name. -/
def ExpansionLimits.assigned (limits : ExpansionLimits) (lookup : Bytes → Option Bytes)
    (name text : Bytes) : Bytes :=
  (substitute limits.nameMax lookup text).take (limits.capacity - (name.length + 1))

namespace AssignmentLine

variable {limits : ExpansionLimits} {name text : Bytes}

theorem entry_ne_nil (h : AssignmentLine limits name text) : Store.entry name text ≠ [] :=
  List.append_ne_nil_of_left_ne_nil h.name_ne_nil _

theorem dollar_not_mem_append (h : AssignmentLine limits name text) :
    Bytes.dollar ∉ name ++ [Bytes.equals] := by
  rw [List.mem_append, List.mem_singleton, not_or]
  exact ⟨h.dollar_not_mem, by decide⟩

theorem reference_mem_entry (h : AssignmentLine limits name text) {nameMax : Nat} {n : Bytes} :
    .reference n ∈ Piece.ofText nameMax (Store.entry name text) ↔
      .reference n ∈ Piece.ofText nameMax text := by
  rw [Store.entry, List.append_cons, Piece.ofText_append_of_not_mem h.dollar_not_mem_append]
  simp

/-- The name and the equals sign are kept as they are, and the value is cut off after them. -/
theorem result_entry (h : AssignmentLine limits name text) (lookup : Bytes → Option Bytes) :
    limits.result lookup (Store.entry name text) =
      Store.entry name (limits.assigned lookup name text) := by
  have hl : (name ++ [Bytes.equals]).length = name.length + 1 := List.length_append
  have hf : (name ++ [Bytes.equals]).length ≤ limits.capacity := hl ▸ h.fits
  unfold ExpansionLimits.result ExpansionLimits.assigned Store.entry
  rw [List.append_cons, substitute_append_of_not_mem lookup h.dollar_not_mem_append,
    List.take_append, List.take_of_length_le hf, hl, ← List.append_cons]

end AssignmentLine

namespace Session

variable [Store σ] {name text : Bytes}

theorem refers_entry {config : Config} {limits : ExpansionLimits} {n : Bytes}
    (h : AssignmentLine limits name text) (hk : 1 ≤ config.maxTokens)
    (hr : config.Refers (Store.entry name text) n) :
    .reference n ∈ Piece.ofText config.varNameMax text := by
  obtain ⟨token, ht, hn⟩ := hr
  rw [tokenize_single h.entry_ne_nil h.space_not_mem hk] at ht
  obtain rfl := List.mem_singleton.1 ht
  exact h.reference_mem_entry.1 hn

/-- The line assigns what its text comes to, unless no memory can be reserved for any line. -/
theorem action_of_assignmentLine (session : Session σ κ ω) (store : σ)
    (h : AssignmentLine session.limits name text) (hk : 1 ≤ session.config.maxTokens) :
    session.action store (Store.entry name text) =
      if session.limits.reservable then
        .assign name (session.limits.assigned (Store.get store) name text)
      else .refuse (.expansion .outOfMemory) := by
  split
  · rename_i hc
    have hp := session.parse_single store h.entry_ne_nil h.space_not_mem hk hc
    dsimp only at hp
    rw [h.result_entry] at hp
    refine action_eq_assign_iff.2 ⟨_, _, hp, rfl, rfl, Standard.ofName?_eq_none ?_,
      Registry.assignment?_eq (cutAt_append _ h.equals_not_mem) h.name_ne_nil⟩
    exact List.mem_append_right _ List.mem_cons_self
  · rename_i hc
    unfold action parse
    rw [tokenize_single h.entry_ne_nil h.space_not_mem hk,
      Command.ofTokens?_eq_error hc (List.cons_ne_nil _ _)]

/-- An assignment to a variable that the line does not refer to does not change what it asks for. -/
theorem action_after_assign [LawfulStore σ] (session : Session σ κ ω) (scene : Scene σ ω)
    {line n : Bytes} (value : Bytes) (h : ¬ session.config.Refers line n) :
    session.action (scene.assign n value).store line = session.action scene.store line := by
  refine action_congr session.host fun name hn => ?_
  have hne : name ≠ n := fun he => h (he ▸ hn)
  rw [Scene.get_assign, if_neg fun ht => hne ht.1]

/-- Two lines that assign, the second of which does not refer to what the first sets. -/
theorem after_assign_assign [LawfulStore σ] (session : Session σ κ ω) (shell : Shell σ κ ω)
    {first second n m v w : Bytes} (hf : session.action shell.store first = .assign n v)
    (hs : session.action shell.store second = .assign m w)
    (hr : ¬ session.config.Refers second n) :
    session.after shell [first, second] =
      { shell with toScene := (shell.toScene.assign n v).assign m w } := by
  have hs' : session.action (shell.toScene.assign n v).store second = .assign m w := by
    rw [session.action_after_assign shell.toScene v hr, hs]
  simp only [after, runLine_eq_perform, hf, perform, hs']

/-- **Assignments to different variables commute.** Run two lines that each assign to a variable of
their own, and do not refer to the variable of the other, in either order: the shells that come out
have the same variables, status, outputs and working directory. A line may refer to its own
variable, and its value may be empty, cut off, or refused. -/
theorem assignments_commute [ListedStore σ] (session : Session σ κ ω) (shell : Shell σ κ ω)
    {n m u v : Bytes} (hn : AssignmentLine session.limits n u)
    (hm : AssignmentLine session.limits m v) (hne : n ≠ m)
    (hu : .reference m ∉ Piece.ofText session.config.varNameMax u)
    (hv : .reference n ∉ Piece.ofText session.config.varNameMax v)
    (hk : 1 ≤ session.config.maxTokens) :
    let first := session.after shell [Store.entry n u, Store.entry m v]
    let second := session.after shell [Store.entry m v, Store.entry n u]
    first.Agree (fun _ => True) second ∧
      (ListedStore.vars first.store).Perm (ListedStore.vars second.store) := by
  intro first second
  by_cases hc : session.limits.reservable
  · have ha := session.action_of_assignmentLine shell.store hn hk
    have hb := session.action_of_assignmentLine shell.store hm hk
    rw [if_pos hc] at ha hb
    have hf : first = _ :=
      session.after_assign_assign shell ha hb fun hr => hv (refers_entry hm hk hr)
    have hs : second = _ :=
      session.after_assign_assign shell hb ha fun hr => hu (refers_entry hn hk hr)
    rw [hf, hs]
    exact ⟨⟨shell.toScene.assign_agree hne _ _, rfl, rfl⟩,
      shell.toScene.vars_assign_perm hne _ _⟩
  · -- neither line is expanded, so that both are refused in the same words under all variables
    have ha (store : σ) := session.action_of_assignmentLine store hn hk
    have hb (store : σ) := session.action_of_assignmentLine store hm hk
    simp only [if_neg hc] at ha hb
    have he : first = second := by
      simp only [first, second, after, runLine_eq_perform, ha, hb]
    rw [he]
    exact ⟨⟨⟨fun _ _ => rfl, rfl, rfl, rfl⟩, rfl, rfl⟩, .refl _⟩

/-- A line that refers to its own variable by a name that is cut off, with a value that is cut off
as well, and a line with a value that the store refuses. -/
theorem assignments_commute_refused :
    let host : Host Unit Unit := .idle
    let session : Session Table Unit Unit := ⟨host, { expandCapacity := 5, varNameMax := 1 }⟩
    let shell : Shell Table Unit Unit :=
      ⟨⟨Table.empty.put (bytes "A") (bytes "01"), (), .ofLimit none, .ofLimit none⟩, (), 7⟩
    let first := session.after shell [bytes "A=$AB$A", bytes "B=\x00$C"]
    let second := session.after shell [bytes "B=\x00$C", bytes "A=$AB$A"]
    (AssignmentLine session.limits (bytes "A") (bytes "$AB$A") ∧
      AssignmentLine session.limits (bytes "B") (bytes "\x00$C") ∧ bytes "A" ≠ bytes "B" ∧
      .reference (bytes "B") ∉ Piece.ofText session.config.varNameMax (bytes "$AB$A") ∧
      .reference (bytes "A") ∉ Piece.ofText session.config.varNameMax (bytes "\x00$C") ∧
      1 ≤ session.config.maxTokens) ∧
    Store.get first.store (bytes "A") = some (bytes "01B") ∧
      first.Agree (fun _ => True) second ∧
      (ListedStore.vars first.store).Perm (ListedStore.vars second.store) := by
  intro host session shell first second
  have hn : AssignmentLine session.limits (bytes "A") (bytes "$AB$A") :=
    ⟨by decide, by decide, by decide, by decide, by decide⟩
  have hm : AssignmentLine session.limits (bytes "B") (bytes "\x00$C") :=
    ⟨by decide, by decide, by decide, by decide, by decide⟩
  have hu : .reference (bytes "B") ∉ Piece.ofText session.config.varNameMax (bytes "$AB$A") := by
    decide +kernel
  have hv : .reference (bytes "A") ∉ Piece.ofText session.config.varNameMax (bytes "\x00$C") := by
    decide +kernel
  have hg : Store.get first.store (bytes "A") = some (bytes "01B") := by decide +kernel
  exact ⟨⟨hn, hm, by decide, hu, hv, by decide⟩, hg,
    session.assignments_commute shell hn hm (by decide) hu hv (by decide)⟩

end Session

end LineShell
