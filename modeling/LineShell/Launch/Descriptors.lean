import LineShell.Bytes

/-!
# Descriptor tables

A table gives open files to some numbers. A new file is put at the lowest free number.
-/

namespace LineShell

/-- The open file at each number, as far as there is one. -/
abbrev Descriptors (φ : Type) := List (Option φ)

namespace Descriptors

variable {φ : Type}

/-- The open file at a number. -/
def at? (table : Descriptors φ) (number : Nat) : Option φ := (table[number]?).join

/-- The lowest number without a file. -/
def lowestFree (table : Descriptors φ) : Nat := table.findIdx Option.isNone

/-- Puts a file at a number, or none. -/
def put (table : Descriptors φ) (number : Nat) (file : Option φ) : Descriptors φ :=
  if number < table.length then table.set number file
  else table ++ List.replicate (number - table.length) none ++ [file]

theorem at?_put (table : Descriptors φ) (number n : Nat) (file : Option φ) :
    (table.put number file).at? n = if n = number then file else table.at? n := by
  simp only [put, at?]
  split
  · rename_i h
    by_cases hn : n = number
    · subst hn; simp [h]
    · simp [hn, Ne.symm hn]
  · rename_i h
    by_cases hn : n = number
    · subst hn
      have hl : (table ++ List.replicate (n - table.length) none).length = n := by simp; omega
      rw [List.getElem?_append_right (by omega), hl]
      simp
    · rw [if_neg hn]
      by_cases ht : n < table.length
      · rw [List.append_assoc, List.getElem?_append_left ht]
      · have hnone : table[n]? = none := by simp; omega
        rw [hnone, List.append_assoc, List.getElem?_append_right (by omega)]
        by_cases hr : n - table.length < number - table.length
        · rw [List.getElem?_append_left (by simpa using hr)]
          simp [hr]
        · rw [List.getElem?_append_right (by simp; omega)]
          have : n - table.length - (number - table.length) ≠ 0 := by omega
          obtain ⟨k, hk⟩ := Nat.exists_eq_succ_of_ne_zero this
          simp [hk]

theorem at?_lowestFree (table : Descriptors φ) : table.at? table.lowestFree = none := by
  simp only [at?, lowestFree]
  by_cases h : table.findIdx Option.isNone < table.length
  · have := @List.findIdx_getElem _ Option.isNone table h
    rw [List.getElem?_eq_getElem h]
    simpa using this
  · have : table[table.findIdx Option.isNone]? = none :=
      List.getElem?_eq_none (Nat.le_of_not_lt h)
    simp [this]

end Descriptors

end LineShell
