/-!
# Cutting lists at a separator

`split` cuts a list at every separator and keeps the empty pieces, `join` is its inverse
(`join_split`), and `cutAt` cuts once, at the first separator. `lines` cuts a text at its
newlines and drops what belongs to the line ends.
-/

namespace LineShell

variable {α : Type} [DecidableEq α]

/-- The pieces between the separators, empty ones included; there is always at least one. -/
def split (sep : α) : List α → List (List α)
  | [] => [[]]
  | a :: rest =>
    match split sep rest with
    | [] => [[a]]
    | piece :: pieces => if a = sep then [] :: piece :: pieces else (a :: piece) :: pieces

/-- The pieces with one separator between neighbours. -/
def join (sep : α) : List (List α) → List α
  | [] => []
  | [piece] => piece
  | piece :: next :: pieces => piece ++ sep :: join sep (next :: pieces)

/-- The part before the first separator and the part after it, if there is a separator. -/
def cutAt (sep : α) : List α → Option (List α × List α)
  | [] => none
  | a :: rest =>
    if a = sep then some ([], rest) else (cutAt sep rest).map fun (l, r) => (a :: l, r)

/-- The list without its last element, if that is `a`. -/
def dropFinal (a : α) (text : List α) : List α :=
  if text.getLast? = some a then text.dropLast else text

/-- Lines from the pieces between newlines: a carriage return before a newline belongs to the
line end, one at the end of the text does not, and an empty last piece is no line. -/
def linesOfPieces (ret : α) : List (List α) → List (List α)
  | [] => []
  | [last] => if last.isEmpty then [] else [last]
  | piece :: next :: pieces => dropFinal ret piece :: linesOfPieces ret (next :: pieces)

/-- The lines of a text whose newline and carriage return are the given ones. -/
def lines (newline ret : α) (text : List α) : List (List α) :=
  linesOfPieces ret (split newline text)

/-! ## Cutting everywhere -/

theorem split_ne_nil (sep : α) (text : List α) : split sep text ≠ [] := by
  cases text with
  | nil => simp [split]
  | cons a rest =>
    simp only [split]
    split
    · simp
    · split <;> simp

theorem split_cons (sep a : α) (rest : List α) :
    ∃ piece pieces, split sep rest = piece :: pieces ∧
      split sep (a :: rest) =
        if a = sep then [] :: piece :: pieces else (a :: piece) :: pieces := by
  obtain ⟨piece, pieces, h⟩ := List.exists_cons_of_ne_nil (split_ne_nil sep rest)
  exact ⟨piece, pieces, h, by simp [split, h]⟩

theorem join_split (sep : α) (text : List α) : join sep (split sep text) = text := by
  induction text with
  | nil => rfl
  | cons a rest ih =>
    obtain ⟨piece, pieces, h, hc⟩ := split_cons sep a rest
    rw [h] at ih
    rw [hc]
    split
    · rename_i ha
      simp [join, ih, ha]
    · cases pieces <;> simp_all [join]

theorem not_mem_of_mem_split {sep : α} {text piece : List α} (h : piece ∈ split sep text) :
    sep ∉ piece := by
  induction text generalizing piece with
  | nil => simp_all [split]
  | cons a rest ih =>
    obtain ⟨first, pieces, hs, hc⟩ := split_cons sep a rest
    rw [hc] at h
    rw [hs] at ih
    split at h
    · rcases List.mem_cons.1 h with rfl | h
      · simp
      · exact ih h
    · rename_i ha
      rcases List.mem_cons.1 h with rfl | h
      · simp [Ne.symm ha, @ih first List.mem_cons_self]
      · exact ih (List.mem_cons_of_mem _ h)

/-! ## Cutting once -/

theorem cutAt_eq_none_iff {sep : α} {text : List α} : cutAt sep text = none ↔ sep ∉ text := by
  induction text with
  | nil => simp [cutAt]
  | cons a rest ih =>
    simp only [cutAt]
    split
    · rename_i h; simp [h]
    · rename_i h
      rw [Option.map_eq_none_iff, ih, List.mem_cons]
      exact ⟨fun hr hm => hm.elim (fun e => h e.symm) hr, fun hn hm => hn (.inr hm)⟩

theorem cutAt_eq_some {sep : α} {text left right : List α}
    (h : cutAt sep text = some (left, right)) : text = left ++ sep :: right ∧ sep ∉ left := by
  induction text generalizing left with
  | nil => simp [cutAt] at h
  | cons a rest ih =>
    simp only [cutAt] at h
    split at h
    · rename_i ha
      simp only [Option.some.injEq, Prod.mk.injEq] at h
      simp [← h.1, ← h.2, ha]
    · rename_i ha
      obtain ⟨⟨l, r⟩, hl, he⟩ := Option.map_eq_some_iff.1 h
      simp only [Prod.mk.injEq] at he
      obtain ⟨rfl, rfl⟩ := he
      obtain ⟨ht, hm⟩ := ih hl
      simp [ht, hm, Ne.symm ha]

theorem cutAt_append {sep : α} {left : List α} (right : List α) (h : sep ∉ left) :
    cutAt sep (left ++ sep :: right) = some (left, right) := by
  induction left with
  | nil => simp [cutAt]
  | cons a rest ih =>
    simp only [List.mem_cons, not_or] at h
    simp [cutAt, Ne.symm h.1, ih h.2]

end LineShell
