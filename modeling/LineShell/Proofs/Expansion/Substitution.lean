import LineShell.Expansion

/-!
# Expansion is truncated substitution

`Substitution nameMax lookup text result` says, without a bound on the result, what it means to
put values in place of references; `Delimits` says which bytes belong to the name of a reference.
Every text has exactly one result (`substitution_iff`), and `expand` gives the beginning of it for
which there is room (`expand_eq_take_substitution`).
-/

namespace LineShell

/-- A reference before `name ++ after` takes `name`: the longest run of name bytes, cut off after
`nameMax` of them. -/
structure Delimits (nameMax : Nat) (name after : Bytes) : Prop where
  all : ∀ b ∈ name, Bytes.isNameByte b
  bounded : name.length ≤ nameMax
  longest : name.length = nameMax ∨ ∀ b ∈ after.head?, ¬ Bytes.isNameByte b

/-- Putting the values in place of the references of a text gives a result. The values are not
looked at again, and a variable that is not set leaves nothing. -/
inductive Substitution (nameMax : Nat) (lookup : Bytes → Option Bytes) : Bytes → Bytes → Prop where
  | nil : Substitution nameMax lookup [] []
  | reference {name after result : Bytes} : (∃ b ∈ (name ++ after).head?, Bytes.isNameByte b) →
      Delimits nameMax name after → Substitution nameMax lookup after result →
      Substitution nameMax lookup (Bytes.dollar :: (name ++ after))
        ((lookup name).getD [] ++ result)
  | byte {b : UInt8} {rest result : Bytes} :
      ¬ (b = Bytes.dollar ∧ ∃ c ∈ rest.head?, Bytes.isNameByte c) →
      Substitution nameMax lookup rest result →
      Substitution nameMax lookup (b :: rest) (b :: result)

/-! ## The name of a reference -/

namespace Piece

theorem startsName_iff {rest : Bytes} :
    startsName rest ↔ ∃ b ∈ rest.head?, Bytes.isNameByte b := by
  cases rest <;> simp [startsName]

@[simp] theorem nameAt_zero (rest : Bytes) : nameAt 0 rest = [] := rfl

@[simp] theorem nameAt_nil (nameMax : Nat) : nameAt nameMax [] = [] := by simp [nameAt]

theorem nameAt_cons (nameMax : Nat) (b : UInt8) (rest : Bytes) :
    nameAt (nameMax + 1) (b :: rest) =
      if Bytes.isNameByte b then b :: nameAt nameMax rest else [] := by
  unfold nameAt
  rw [List.takeWhile_cons]
  split <;> rfl

theorem nameAt_append_drop (nameMax : Nat) (rest : Bytes) :
    nameAt nameMax rest ++ rest.drop (nameAt nameMax rest).length = rest :=
  List.prefix_iff_eq_append.1 ((List.take_prefix _ _).trans (List.takeWhile_prefix _))

theorem delimits_nameAt (nameMax : Nat) (rest : Bytes) :
    Delimits nameMax (nameAt nameMax rest) (rest.drop (nameAt nameMax rest).length) := by
  induction rest generalizing nameMax with
  | nil => exact ⟨by simp, by simp, .inr (by simp)⟩
  | cons b rest ih =>
    cases nameMax with
    | zero => exact ⟨by simp, by simp, .inl rfl⟩
    | succ nameMax =>
      rw [nameAt_cons]
      split
      · rename_i hb
        obtain ⟨hall, hlen, hend⟩ := ih nameMax
        refine ⟨?_, by simpa using hlen, by simpa using hend⟩
        intro c hc
        rcases List.mem_cons.1 hc with rfl | hc
        · exact hb
        · exact hall c hc
      · rename_i hb
        exact ⟨by simp, by simp, .inr (by simpa using hb)⟩

theorem nameAt_append {nameMax : Nat} {name after : Bytes} (h : Delimits nameMax name after) :
    nameAt nameMax (name ++ after) = name := by
  induction name generalizing nameMax with
  | nil =>
    rcases h.longest with hn | ha
    · subst hn
      rfl
    · cases nameMax with
      | zero => rfl
      | succ nameMax =>
        cases after with
        | nil => rfl
        | cons b after =>
          have hb : ¬ Bytes.isNameByte b := ha b rfl
          rw [List.nil_append, nameAt_cons, if_neg hb]
  | cons b name ih =>
    obtain ⟨hall, hlen, hend⟩ := h
    simp only [List.length_cons] at hlen hend
    obtain ⟨nameMax, rfl⟩ : ∃ n, nameMax = n + 1 := ⟨nameMax - 1, by omega⟩
    have hd : Delimits nameMax name after :=
      ⟨fun c hc => hall c (List.mem_cons_of_mem _ hc), by omega, hend.imp_left (by omega)⟩
    rw [List.cons_append, nameAt_cons, if_pos (hall b List.mem_cons_self), ih hd]

/-! ## Pieces of a text -/

@[simp] theorem ofText_nil (nameMax : Nat) : ofText nameMax [] = [] := by simp [ofText]

theorem ofText_reference {nameMax : Nat} {name after : Bytes} (hs : startsName (name ++ after))
    (hd : Delimits nameMax name after) :
    ofText nameMax (Bytes.dollar :: (name ++ after)) = .reference name :: ofText nameMax after := by
  rw [ofText, if_pos (by simp [hs]), nameAt_append hd, List.drop_left]

theorem ofText_byte {nameMax : Nat} {b : UInt8} {rest : Bytes}
    (h : ¬ (b = Bytes.dollar ∧ startsName rest)) :
    ofText nameMax (b :: rest) = .byte b :: ofText nameMax rest := by
  rw [ofText, if_neg (by simpa using h)]

/-- A text is empty, or begins with a reference, or with a byte that stands for itself. -/
theorem induction_text (nameMax : Nat) {P : Bytes → Prop} (nil : P [])
    (reference : ∀ name after, startsName (name ++ after) → Delimits nameMax name after →
      P after → P (Bytes.dollar :: (name ++ after)))
    (byte : ∀ b rest, ¬ (b = Bytes.dollar ∧ startsName rest) → P rest → P (b :: rest))
    (text : Bytes) : P text := by
  induction text using ofText.induct nameMax with
  | case1 => exact nil
  | case2 b rest h ih =>
    simp only [Bool.and_eq_true, beq_iff_eq] at h
    obtain ⟨rfl, hs⟩ := h
    have hr := nameAt_append_drop nameMax rest
    have := reference _ _ (by rwa [hr]) (delimits_nameAt nameMax rest) ih
    rwa [hr] at this
  | case3 b rest h ih => exact byte b rest (by simpa using h) ih

end Piece

/-! ## Substitution -/

section
variable {nameMax : Nat} {lookup : Bytes → Option Bytes}

@[simp] theorem substitute_nil : substitute nameMax lookup [] = [] := by simp [substitute]

theorem substitute_reference {name after : Bytes} (hs : Piece.startsName (name ++ after))
    (hd : Delimits nameMax name after) :
    substitute nameMax lookup (Bytes.dollar :: (name ++ after)) =
      (lookup name).getD [] ++ substitute nameMax lookup after := by
  unfold substitute
  rw [Piece.ofText_reference hs hd, List.flatMap_cons]
  rfl

theorem substitute_byte {b : UInt8} {rest : Bytes}
    (h : ¬ (b = Bytes.dollar ∧ Piece.startsName rest)) :
    substitute nameMax lookup (b :: rest) = b :: substitute nameMax lookup rest := by
  unfold substitute
  rw [Piece.ofText_byte h, List.flatMap_cons]
  rfl

theorem substitution_substitute (text : Bytes) :
    Substitution nameMax lookup text (substitute nameMax lookup text) := by
  induction text using Piece.induction_text nameMax with
  | nil => rw [substitute_nil]; exact .nil
  | reference name after hs hd ih =>
    rw [substitute_reference hs hd]
    exact .reference (Piece.startsName_iff.1 hs) hd ih
  | byte b rest h ih =>
    rw [substitute_byte h]
    exact .byte (by rwa [← Piece.startsName_iff]) ih

theorem Substitution.eq_substitute {text result : Bytes}
    (h : Substitution nameMax lookup text result) : result = substitute nameMax lookup text := by
  induction h with
  | nil => rw [substitute_nil]
  | reference hs hd _ ih => rw [substitute_reference (Piece.startsName_iff.2 hs) hd, ih]
  | byte h _ ih => rw [substitute_byte (by rwa [Piece.startsName_iff]), ih]

theorem substitution_iff {text result : Bytes} :
    Substitution nameMax lookup text result ↔ result = substitute nameMax lookup text :=
  ⟨Substitution.eq_substitute, fun h => h ▸ substitution_substitute text⟩

end

/-! ## Truncation -/

namespace ExpansionLimits

/-- What an expansion gives if its memory can be reserved. -/
def result (limits : ExpansionLimits) (lookup : Bytes → Option Bytes) (text : Bytes) : Bytes :=
  (substitute limits.nameMax lookup text).take limits.capacity

theorem expand_of_reservable {limits : ExpansionLimits} (h : limits.reservable)
    (lookup : Bytes → Option Bytes) (text : Bytes) :
    limits.expand lookup text = .ok (limits.result lookup text) := by
  unfold expand result substitute
  rw [if_pos h, Piece.fill_eq_take]

/-- **Expansion is bounded truncation of substitution**: a text has exactly one substitution, and
the expansion is as much of its beginning as the capacity admits. -/
theorem expand_eq_take_substitution (limits : ExpansionLimits) (lookup : Bytes → Option Bytes)
    (text : Bytes) (h : limits.reservable) :
    ∃ whole, (∀ result, Substitution limits.nameMax lookup text result ↔ result = whole) ∧
      limits.expand lookup text = .ok (whole.take limits.capacity) :=
  ⟨substitute limits.nameMax lookup text, fun _ => substitution_iff,
    expand_of_reservable h lookup text⟩

/-- A name that is cut off by its bound, and a value that is cut off by the capacity. -/
theorem expand_eq_take_substitution_cut :
    let limits : ExpansionLimits := { capacity := 6, nameMax := 2 }
    limits.reservable ∧
      ∃ whole, (∀ result, Substitution 2 (fun name => some (bytes "v$AB" ++ name))
          (bytes "$ABC$") result ↔ result = whole) ∧
        limits.expand (fun name => some (bytes "v$AB" ++ name)) (bytes "$ABC$") =
          .ok (whole.take 6) := by
  intro limits
  have hr : limits.reservable := by decide
  exact ⟨hr, expand_eq_take_substitution limits _ _ hr⟩

end ExpansionLimits

end LineShell
