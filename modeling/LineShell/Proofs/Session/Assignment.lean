import LineShell.Proofs.Command.Rendering
import LineShell.Proofs.Expansion.Seam
import LineShell.Proofs.Session.History
import LineShell.Proofs.Store.Listed

/-!
# Assignments are read back

A line NAME=VALUE that is `Assignable` sets the variable and does nothing else
(`runLine_assignable`). As long as no line assigns the name again, every reference to it gives the
value, and a snapshot has the entry NAME=VALUE and no other one for the name
(`reference_after_assign`).
-/

namespace LineShell

variable {σ κ ω : Type}

/-- The line NAME=VALUE gives the name this value: its only token is short enough, has no reference
in it, and a reference can take all of the name. -/
structure Assignable (limits : ExpansionLimits) (name value : Bytes) : Prop where
  name_ne_nil : name ≠ []
  nameBytes : ∀ b ∈ name, Bytes.isNameByte b
  name_length_le : name.length ≤ limits.nameMax
  value_ne_nil : value ≠ []
  space_not_mem : Bytes.space ∉ value
  nul_not_mem : Bytes.nul ∉ value
  noReference : ∀ b, [Bytes.dollar, b] <:+: value → ¬ Bytes.isNameByte b
  length_le : (Store.entry name value).length ≤ limits.capacity

/-- An occurrence that begins with a byte which is not in the first part is in the second. -/
theorem infix_of_infix_append {b c : UInt8} {first second : Bytes} (h : b ∉ first)
    (hi : [b, c] <:+: first ++ second) : [b, c] <:+: second := by
  induction first with
  | nil => exact hi
  | cons d first ih =>
    rw [List.mem_cons, not_or] at h
    rcases List.infix_cons_iff.1 hi with hp | hi
    · exact absurd (List.cons_prefix_cons.1 hp).1 h.1
    · exact ih h.2 hi

namespace Assignable

variable {limits : ExpansionLimits} {name value : Bytes}

theorem not_mem_name (h : Assignable limits name value) {b : UInt8} (hb : ¬ Bytes.isNameByte b) :
    b ∉ name :=
  fun hm => hb (h.nameBytes b hm)

theorem literal (h : Assignable limits name value) : Literal limits (Store.entry name value) where
  ne_nil := List.append_ne_nil_of_left_ne_nil h.name_ne_nil _
  space_not_mem := by
    have hs : Bytes.space ∉ name := h.not_mem_name (by decide)
    have he : Bytes.space ≠ Bytes.equals := by decide
    simp [Store.entry, hs, he, h.space_not_mem]
  noReference b hi := by
    have hd : Bytes.dollar ∉ name ++ [Bytes.equals] := by
      have hd : Bytes.dollar ∉ name := h.not_mem_name (by decide)
      have he : Bytes.dollar ≠ Bytes.equals := by decide
      simp [hd, he]
    refine h.noReference b (infix_of_infix_append hd ?_)
    rwa [List.append_assoc, List.singleton_append]
  length_le := h.length_le

theorem binds (h : Assignable limits name value) :
    Binds (Store.entry name value) name value where
  word_eq := rfl
  equals_not_mem := h.not_mem_name (by decide)
  name_ne_nil := h.name_ne_nil
  value_ne_nil := h.value_ne_nil
  noNul := by
    have hn : Bytes.nul ∉ name := h.not_mem_name (by decide)
    rw [Store.hasNul_entry]
    simp [Bytes.hasNul, hn, h.nul_not_mem]

end Assignable

namespace Session

variable [Store σ] {name value : Bytes}

theorem action_of_assignable (session : Session σ κ ω) (store : σ)
    (h : Assignable session.limits name value) (hm : 1 ≤ session.config.maxTokens)
    (hc : session.limits.reservable) :
    session.action store (Store.entry name value) = .assign name value := by
  have hp := session.parse_single store h.literal.ne_nil h.literal.space_not_mem hm hc
  dsimp only at hp
  rw [h.literal.result] at hp
  exact action_eq_assign_iff.2
    ⟨_, _, hp, rfl, rfl, h.binds.ofName?_eq_none, h.binds.assignment?_eq⟩

/-- Such a line sets its variable and leaves the rest of the shell alone. -/
theorem runLine_assignable [LawfulStore σ] (session : Session σ κ ω) (shell : Shell σ κ ω)
    (h : Assignable session.limits name value) (hm : 1 ≤ session.config.maxTokens)
    (hc : session.limits.reservable) :
    ∃ store, Store.set shell.store name value = .ok store ∧
      session.runLine shell (Store.entry name value) = (.proceed, { shell with store }) := by
  obtain ⟨store, hs, _⟩ := LawfulStore.set_of_accepted shell.store (binds_iff.1 h.binds).2.1
  refine ⟨store, hs, ?_⟩
  rw [runLine_eq_perform, session.action_of_assignable _ h hm hc]
  dsimp only [perform, Scene.assign]
  rw [if_neg (by simpa using h.value_ne_nil), hs]

/-- **What is assigned is what is referenced later.** If NAME=VALUE is assignable, the line sets
the variable: it prints nothing, launches nothing and keeps the status. After any further lines
none of which assigns the name, a reference to it gives the value with the rest of the text
expanded after it, as far as there is room, and the snapshot has NAME=VALUE as its only entry for
the name. The values of other variables do not matter. -/
theorem reference_after_assign [NamedStore σ] (session : Session σ κ ω)
    (shell : Shell σ (Recorded κ) ω) (hv : Store.Named (ListedStore.vars shell.store))
    (ha : Assignable session.limits name value) (hm : 1 ≤ session.config.maxTokens)
    (hc : session.limits.reservable) :
    ∃ store, Store.set shell.store name value = .ok store ∧
      session.recording.runLine shell (Store.entry name value) = (.proceed, { shell with store }) ∧
      ∀ lines,
        (∀ i other, ¬ session.recording.AssignsAt { shell with store } lines i name other) →
        let last := (session.recording.after { shell with store } lines).store
        (∀ rest, rest.EndsNames →
          ∃ tail, session.limits.expand (Store.get last) rest = .ok tail ∧
            session.limits.expand (Store.get last) (Bytes.dollar :: (name ++ rest)) =
              .ok ((value ++ tail).take session.limits.capacity)) ∧
        Store.entriesFor name (Store.snapshot last) = [Store.entry name value] := by
  obtain ⟨store, hs, hr⟩ := session.recording.runLine_assignable shell ha hm hc
  refine ⟨store, hs, hr, ?_⟩
  intro lines hn last
  have hg : Store.get last name = some value := by
    rcases session.recording.get_after { shell with store } lines name with
      ⟨other, ⟨i, hi, _⟩, _⟩ | ⟨_, hg⟩
    · exact absurd hi (hn i other)
    · rw [Store.get_of_set_ok hs name, if_pos rfl] at hg
      exact hg
  have hl : Store.Named (ListedStore.vars last) :=
    session.recording.after_preserves ListedStore.named_of_set lines
      (ListedStore.named_of_set hv hs)
  refine ⟨fun rest hrest => ⟨_, ExpansionLimits.expand_of_reservable hc _ rest, ?_⟩, ?_⟩
  · rw [ExpansionLimits.expand_of_reservable hc, ExpansionLimits.result_reference _ _
      ha.name_ne_nil ha.nameBytes ha.name_length_le hrest, hg]
    rfl
  · rw [NamedStore.snapshot_of_named hl]
    exact hl.entriesFor_keptOf (by rw [← NamedStore.get_of_named hl, hg]) ha.binds.noNul

/-- A value with an equals sign, an operator and a dollar sign, for which the name and the line are
as long as they can be, beside a variable that no child can be handed. One of the lines after it
only looks like an assignment, the other has no value. -/
theorem reference_after_assign_tight :
    let host : Host Unit Unit := .idle
    let session : Session Table Unit Unit :=
      ⟨host, { expandCapacity := 5, maxTokens := 2, varNameMax := 1 }⟩
    let shell : Shell Table (Recorded Unit) Unit :=
      ⟨⟨Table.empty.put (bytes "B") (bytes "\x00"), (), .ofLimit none, .ofLimit none⟩, ⟨(), []⟩, 7⟩
    let assigned := { shell with store := shell.store.put (bytes "A") (bytes "=$>") }
    let lines := [bytes "A=", bytes "ls A=$A"]
    let last := (session.recording.after assigned lines).store
    (Store.Named (ListedStore.vars shell.store) ∧
      Assignable session.limits (bytes "A") (bytes "=$>") ∧ 1 ≤ session.config.maxTokens ∧
      session.limits.reservable ∧
      ∀ i other, ¬ session.recording.AssignsAt assigned lines i (bytes "A") other) ∧
    session.recording.runLine shell (bytes "A==$>") = (.proceed, assigned) ∧
      session.limits.expand (Store.get last) (bytes "$A-$A") = .ok (bytes "=$>-=") ∧
      Store.entriesFor (bytes "A") (Store.snapshot last) = [bytes "A==$>"] := by
  intro host session shell assigned lines last
  have hv : Store.Named (ListedStore.vars shell.store) := ⟨by decide, by decide⟩
  have hlit : Literal session.limits (bytes "=$>") := by decide
  have ha : Assignable session.limits (bytes "A") (bytes "=$>") :=
    ⟨by decide, List.all_eq_true.1 (by decide), by decide, by decide, by decide, by decide,
      hlit.noReference, by decide⟩
  have hm : 1 ≤ session.config.maxTokens := by decide
  have hc : session.limits.reservable := by decide
  have hempty : session.recording.action assigned.store (bytes "A=") =
      .assign (bytes "A") [] := by decide +kernel
  have hlaunch : session.recording.action
      (session.recording.runLine assigned (bytes "A=")).2.store (bytes "ls A=$A") =
        .launch ⟨[⟨bytes "ls", true⟩, ⟨bytes "A==$>", false⟩], []⟩ := by decide +kernel
  have hn : ∀ i other,
      ¬ session.recording.AssignsAt assigned lines i (bytes "A") other := by
    intro i other
    match i with
    | 0 =>
      rw [assignsAt_zero, assigns_iff, hempty]
      exact nofun
    | 1 =>
      rw [assignsAt_succ, assignsAt_zero, assigns_iff, hlaunch]
      exact nofun
    | i + 2 => exact not_assignsAt_nil
  obtain ⟨_, hs, hr, hlast⟩ := session.reference_after_assign shell hv ha hm hc
  cases Except.ok.inj hs
  obtain ⟨hexp, hsnap⟩ := hlast lines hn
  obtain ⟨tail, ht, hwhole⟩ := hexp (bytes "-$A") (by decide)
  have htail : session.limits.expand (Store.get last) (bytes "-$A") = .ok (bytes "-=$>") := by
    decide +kernel
  cases ht.symm.trans htail
  exact ⟨⟨hv, ha, hm, hc, hn⟩, hr, hwhole, hsnap⟩

end Session

end LineShell
