import LineShell.Proofs.Expansion.Substitution

/-!
# Texts in two parts

A reference takes the longest run of name bytes, so a text can be taken apart before any byte that
is no name byte: the substitutions in the two parts together are the substitution in the whole
(`substitute_append`). The capacity cuts off the same whether it is applied to the parts or to the
whole, and a smaller one is the same as cutting off more (`expand_append`).
-/

namespace LineShell

/-- No name goes on into these bytes. -/
def Bytes.EndsNames (rest : Bytes) : Prop := ∀ b ∈ rest.head?, ¬ Bytes.isNameByte b

instance Bytes.decidableEndsNames : (rest : Bytes) → Decidable rest.EndsNames
  | [] => isTrue nofun
  | b :: _ =>
    decidable_of_iff (¬ Bytes.isNameByte b)
      ⟨fun h _ hb => Option.some.inj hb ▸ h, fun h => h b rfl⟩

section
variable {nameMax : Nat} {second : Bytes}

theorem Bytes.EndsNames.not_startsName (h : second.EndsNames) : ¬ Piece.startsName second := by
  rw [Piece.startsName_iff]
  rintro ⟨b, hb, hn⟩
  exact h b hb hn

/-- Whether a dollar sign refers to a variable does not depend on what comes after the seam. -/
theorem Piece.startsName_append (h : second.EndsNames) (first : Bytes) :
    startsName (first ++ second) = startsName first := by
  cases first with
  | nil => exact Bool.eq_false_iff.2 h.not_startsName
  | cons b first => rfl

/-- A name that reaches up to the seam ends there. -/
theorem Delimits.append {name after : Bytes} (h : second.EndsNames)
    (hd : Delimits nameMax name after) : Delimits nameMax name (after ++ second) where
  all := hd.all
  bounded := hd.bounded
  longest := by
    refine hd.longest.imp_right fun ha => ?_
    cases after with
    | nil => exact h
    | cons b after => exact ha

theorem substitute_append (lookup : Bytes → Option Bytes) (h : second.EndsNames) (first : Bytes) :
    substitute nameMax lookup (first ++ second) =
      substitute nameMax lookup first ++ substitute nameMax lookup second := by
  induction first using Piece.induction_text nameMax with
  | nil => rw [substitute_nil, List.nil_append, List.nil_append]
  | reference name after hs hd ih =>
    have hs' : Piece.startsName (name ++ (after ++ second)) := by
      rwa [← List.append_assoc, Piece.startsName_append h]
    rw [List.cons_append, List.append_assoc, substitute_reference hs' (hd.append h), ih,
      substitute_reference hs hd, List.append_assoc]
  | byte b rest hb ih =>
    have hb' : ¬ (b = Bytes.dollar ∧ Piece.startsName (rest ++ second)) := by
      rwa [Piece.startsName_append h]
    rw [List.cons_append, substitute_byte hb', ih, substitute_byte hb, List.cons_append]

end

/-! ## Truncation -/

/-- What is cut off anyway need not be there. -/
theorem take_append_take {α : Type} (n : Nat) (first second : List α) :
    (first ++ second.take n).take n = (first ++ second).take n := by
  rw [List.take_append, List.take_append, List.take_take, Nat.min_eq_left (Nat.sub_le _ _)]

theorem take_take_append {α : Type} (n : Nat) (first second : List α) :
    (first.take n ++ second).take n = (first ++ second).take n := by
  rcases Nat.le_total first.length n with h | h
  · rw [List.take_of_length_le h]
  · have hl : n ≤ (first.take n).length := Nat.le_of_eq (List.length_take_of_le h).symm
    rw [List.take_append_of_le_length hl, List.take_append_of_le_length h, List.take_take,
      Nat.min_self]

namespace ExpansionLimits

theorem result_append (limits : ExpansionLimits) (lookup : Bytes → Option Bytes) {second : Bytes}
    (h : second.EndsNames) (first : Bytes) :
    limits.result lookup (first ++ second) =
      (limits.result lookup first ++ limits.result lookup second).take limits.capacity := by
  unfold result
  rw [take_take_append, take_append_take, substitute_append lookup h]

/-- A reference gives the value of its variable, whatever it is, with the rest of the text expanded
after it. -/
theorem result_reference (limits : ExpansionLimits) (lookup : Bytes → Option Bytes)
    {name rest : Bytes} (hn : name ≠ []) (ha : ∀ b ∈ name, Bytes.isNameByte b)
    (hl : name.length ≤ limits.nameMax) (h : rest.EndsNames) :
    limits.result lookup (Bytes.dollar :: (name ++ rest)) =
      ((lookup name).getD [] ++ limits.result lookup rest).take limits.capacity := by
  have hs : Piece.startsName (name ++ rest) := by
    obtain ⟨b, more, rfl⟩ := List.exists_cons_of_ne_nil hn
    exact ha b List.mem_cons_self
  unfold result
  rw [substitute_reference hs ⟨ha, hl, .inr h⟩, take_append_take]

theorem result_of_le {capacity larger : Nat} (h : capacity ≤ larger) (nameMax : Nat)
    (grants : Nat → Bool) (lookup : Bytes → Option Bytes) (text : Bytes) :
    result ⟨capacity, nameMax, grants⟩ lookup text =
      (result ⟨larger, nameMax, grants⟩ lookup text).take capacity := by
  unfold result
  dsimp only
  rw [List.take_take, Nat.min_eq_left h]

/-- **Expansion is compositional at the ends of names.** If no name byte follows the seam between
two texts, expanding them together gives as much of their expansions, one after the other, as the
capacity admits. A smaller capacity gives the beginning of what a larger one gives. -/
theorem expand_append (nameMax : Nat) (grants : Nat → Bool) (lookup : Bytes → Option Bytes) :
    (∀ capacity first second, reservable ⟨capacity, nameMax, grants⟩ → second.EndsNames →
      ∃ left right, expand ⟨capacity, nameMax, grants⟩ lookup first = .ok left ∧
        expand ⟨capacity, nameMax, grants⟩ lookup second = .ok right ∧
        expand ⟨capacity, nameMax, grants⟩ lookup (first ++ second) =
          .ok ((left ++ right).take capacity)) ∧
    ∀ capacity larger text, reservable ⟨capacity, nameMax, grants⟩ →
      reservable ⟨larger, nameMax, grants⟩ → capacity ≤ larger →
      ∃ whole, expand ⟨larger, nameMax, grants⟩ lookup text = .ok whole ∧
        expand ⟨capacity, nameMax, grants⟩ lookup text = .ok (whole.take capacity) := by
  refine ⟨fun capacity first second hr hs => ?_, fun capacity larger text hr hl hle => ?_⟩
  · refine ⟨_, _, expand_of_reservable hr lookup first, expand_of_reservable hr lookup second, ?_⟩
    rw [expand_of_reservable hr, result_append ⟨capacity, nameMax, grants⟩ lookup hs]
  · refine ⟨_, expand_of_reservable hl lookup text, ?_⟩
    rw [expand_of_reservable hr, result_of_le hle]

/-- The first text ends in a name that is cut off by its bound, and the second begins with a dollar
sign; with less room the cut is inside the value. -/
theorem expand_append_cut :
    let lookup : Bytes → Option Bytes := fun name => some (bytes "<" ++ name ++ bytes ">")
    let limits (capacity : Nat) : ExpansionLimits := ⟨capacity, 2, ampleMemory⟩
    (limits 7).reservable ∧ (bytes "$-").EndsNames ∧ (limits 3).reservable ∧
      (∃ left right, (limits 7).expand lookup (bytes "$$ABC") = .ok left ∧
        (limits 7).expand lookup (bytes "$-") = .ok right ∧
        (limits 7).expand lookup (bytes "$$ABC" ++ bytes "$-") = .ok ((left ++ right).take 7)) ∧
      ∃ whole, (limits 7).expand lookup (bytes "$$ABC") = .ok whole ∧
        (limits 3).expand lookup (bytes "$$ABC") = .ok (whole.take 3) := by
  intro lookup limits
  have hs : (bytes "$-").EndsNames := by decide
  obtain ⟨ha, hc⟩ := expand_append 2 ampleMemory lookup
  exact ⟨by decide, hs, by decide, ha 7 _ _ (by decide) hs,
    hc 3 7 _ (by decide) (by decide) (by decide)⟩

end ExpansionLimits

end LineShell
