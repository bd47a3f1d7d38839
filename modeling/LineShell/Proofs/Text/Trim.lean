import LineShell.Proofs.Text.Lines
import LineShell.Text.Blank
import Mathlib.Data.List.TakeWhile

/-!
# Trimmed texts

`Trims text core` says what it means that `core` is left of a text without the blanks at its ends;
`trim` finds it (`trim_eq_iff`). A carriage return is blank, so that one at the end of a text makes
no difference to what is left (`trim_dropFinal`).
-/

namespace LineShell.Text

/-- The text is the core with blanks around it, and the core has none at its ends. -/
structure Trims (text core : Text) : Prop where
  around : ∃ before after, text = before ++ core ++ after ∧
    (∀ c ∈ before, isBlank c = true) ∧ ∀ c ∈ after, isBlank c = true
  first : ∀ c, core.head? = some c → isBlank c = false
  last : ∀ c, core.getLast? = some c → isBlank c = false

theorem dropWhile_append_of_head {p : Char → Bool} {before core : Text}
    (hb : ∀ c ∈ before, p c = true) (hc : ∀ c, core.head? = some c → p c = false) :
    (before ++ core).dropWhile p = core := by
  rw [List.dropWhile_append_of_pos hb]
  cases core with
  | nil => rfl
  | cons c rest =>
    have hn : p c = false := hc c rfl
    rw [List.dropWhile_cons, hn]
    rfl

theorem head_dropWhile {p : Char → Bool} {text : Text} {c : Char}
    (h : (text.dropWhile p).head? = some c) : p c = false := by
  have hn := List.head?_dropWhile_not p text
  rw [h] at hn
  exact hn

theorem Trims.trim_eq {text core : Text} (h : Trims text core) : text.trim = core := by
  obtain ⟨⟨before, after, rfl, hb, ha⟩, hf, hl⟩ := h
  unfold trim
  by_cases hc : core = []
  · subst hc
    have hall : ∀ c ∈ before ++ [] ++ after, isBlank c = true := by
      intro c hm
      rw [List.append_nil, List.mem_append] at hm
      exact hm.elim (hb c) (ha c)
    rw [List.dropWhile_eq_nil_iff.2 hall]
    rfl
  · have hd : (before ++ (core ++ after)).dropWhile isBlank = core ++ after := by
      apply dropWhile_append_of_head hb
      intro c hm
      cases core with
      | nil => exact absurd rfl hc
      | cons d rest => exact hf c hm
    have hr : (after.reverse ++ core.reverse).dropWhile isBlank = core.reverse := by
      apply dropWhile_append_of_head
      · intro c hm
        exact ha c (List.mem_reverse.1 hm)
      · intro c hm
        rw [List.head?_reverse] at hm
        exact hl c hm
    rw [List.append_assoc, hd, List.reverse_append, hr, List.reverse_reverse]

theorem trims_trim (text : Text) : Trims text text.trim := by
  let rest := text.dropWhile isBlank
  let tail := rest.reverse.dropWhile isBlank
  have ht : text = text.takeWhile isBlank ++ rest := List.takeWhile_append_dropWhile.symm
  have hr : rest = tail.reverse ++ (rest.reverse.takeWhile isBlank).reverse := by
    rw [← List.reverse_append, List.takeWhile_append_dropWhile, List.reverse_reverse]
  refine ⟨⟨text.takeWhile isBlank, (rest.reverse.takeWhile isBlank).reverse, ?_, ?_, ?_⟩, ?_, ?_⟩
  · calc
      text = text.takeWhile isBlank ++ rest := ht
      _ = text.takeWhile isBlank ++ (tail.reverse ++ (rest.reverse.takeWhile isBlank).reverse) :=
        congrArg (text.takeWhile isBlank ++ ·) hr
      _ = _ := (List.append_assoc _ _ _).symm
  · exact fun c hc => List.mem_takeWhile_imp hc
  · exact fun c hc => List.mem_takeWhile_imp (List.mem_reverse.1 hc)
  · intro c hc
    have hh : rest.head? = some c := by
      rw [hr, List.head?_append, show tail.reverse.head? = some c from hc]
      rfl
    exact head_dropWhile hh
  · intro c hc
    have hh : tail.head? = some c := by
      rw [← List.getLast?_reverse]
      exact hc
    exact head_dropWhile hh

theorem trim_eq_iff {text core : Text} : text.trim = core ↔ Trims text core := by
  constructor
  · rintro rfl
    exact trims_trim text
  · exact Trims.trim_eq

theorem trim_eq_nil_iff {text : Text} : text.trim = [] ↔ ∀ c ∈ text, isBlank c = true := by
  rw [trim_eq_iff]
  constructor
  · rintro ⟨⟨before, after, rfl, hb, ha⟩, _, _⟩ c hc
    rw [List.append_nil, List.mem_append] at hc
    exact hc.elim (hb c) (ha c)
  · intro h
    exact ⟨⟨text, [], by simp, h, by simp⟩, by simp, by simp⟩

theorem trim_concat_of_blank (text : Text) {c : Char} (h : isBlank c = true) :
    Text.trim (text ++ [c]) = text.trim := by
  obtain ⟨⟨before, after, ht, hb, ha⟩, hf, hl⟩ := trims_trim text
  refine trim_eq_iff.2 ⟨⟨before, after ++ [c], ?_, hb, ?_⟩, hf, hl⟩
  · rw [← List.append_assoc, ← ht]
  · intro d hd
    rw [List.mem_append, List.mem_singleton] at hd
    rcases hd with hd | rfl
    · exact ha d hd
    · exact h

theorem trim_dropFinal (text : Text) : Text.trim (dropFinal '\r' text) = text.trim := by
  rcases eq_dropFinal_or '\r' text with h | h
  · rw [← h]
  · have hc := trim_concat_of_blank (dropFinal '\r' text) (c := '\r') (by decide)
    rw [← h] at hc
    exact hc.symm

end LineShell.Text
