import LineShell.Proofs.Input.Lines
import LineShell.Proofs.Text.Newline

/-!
# Lines of bytes and of text

A text is what comes before its first newline, and what comes after it (`induction_lines`). So the
lines of the bytes of a text are the bytes of its lines (`lines_utf8`), and lines that are put
together again, each with a newline after it, come apart as they were, except that a carriage
return at their end is taken for a part of the line end (`lines_flatMap`).
-/

namespace LineShell

section
variable {α : Type} [DecidableEq α] {newline ret : α}

theorem dropFinal_concat (a b : α) (text : List α) :
    dropFinal a (text ++ [b]) = if b = a then text else text ++ [b] := by
  simp [dropFinal]

theorem dropFinal_eq_self_iff {a : α} {text : List α} :
    dropFinal a text = text ↔ text.getLast? ≠ some a := by
  rcases List.eq_nil_or_concat text with rfl | ⟨front, b, rfl⟩
  · simp [dropFinal]
  · rw [List.concat_eq_append, dropFinal_concat]
    by_cases h : b = a <;> simp [h]

theorem eq_dropFinal_or (a : α) (text : List α) :
    text = dropFinal a text ∨ text = dropFinal a text ++ [a] := by
  rcases List.eq_nil_or_concat text with rfl | ⟨front, b, rfl⟩
  · exact .inl rfl
  · rw [List.concat_eq_append, dropFinal_concat]
    by_cases h : b = a <;> simp [h]

theorem dropFinal_append_cons {a b : α} {left right : List α} (h : b ≠ a) :
    dropFinal a (left ++ b :: right) = left ++ b :: dropFinal a right := by
  rcases List.eq_nil_or_concat right with rfl | ⟨front, c, rfl⟩
  · rw [dropFinal_concat, if_neg h]
    rfl
  · rw [List.concat_eq_append, dropFinal_concat, ← List.cons_append, ← List.append_assoc,
      dropFinal_concat]
    split <;> simp

/-! ## The first line and the others -/

theorem lines_of_not_mem {text : List α} (h : newline ∉ text) :
    lines newline ret text = if text = [] then [] else [text] := by
  unfold lines
  rw [split_of_cutAt_none (cutAt_eq_none_iff.2 h)]
  cases text <;> rfl

theorem lines_append_cons {left : List α} (right : List α) (h : newline ∉ left) :
    lines newline ret (left ++ newline :: right) =
      dropFinal ret left :: lines newline ret right := by
  unfold lines
  rw [split_of_cutAt_some (cutAt_append right h)]
  obtain ⟨piece, pieces, hp⟩ := List.exists_cons_of_ne_nil (split_ne_nil newline right)
  rw [hp]
  rfl

/-- A property of lists holds if it holds of those without a newline, and of every other one if it
holds of what comes after its first newline. -/
theorem induction_lines {motive : List α → Prop} (newline : α)
    (last : ∀ text, newline ∉ text → motive text)
    (line : ∀ left right, newline ∉ left → motive right → motive (left ++ newline :: right))
    (text : List α) : motive text := by
  induction hn : text.length using Nat.strongRecOn generalizing text with
  | ind n ih =>
    cases hc : cutAt newline text with
    | none => exact last text (cutAt_eq_none_iff.1 hc)
    | some parts =>
      obtain ⟨left, right⟩ := parts
      obtain ⟨rfl, hl⟩ := cutAt_eq_some hc
      refine line left right hl (ih right.length ?_ right rfl)
      rw [List.length_append, List.length_cons] at hn
      omega

theorem lines_flatMap {texts : List (List α)} (h : ∀ text ∈ texts, newline ∉ text) :
    lines newline ret (texts.flatMap (· ++ [newline])) = texts.map (dropFinal ret) := by
  induction texts with
  | nil => rfl
  | cons text rest ih =>
    rw [List.forall_mem_cons] at h
    rw [List.flatMap_cons, List.append_assoc, List.singleton_append,
      lines_append_cons _ h.1, ih h.2, List.map_cons]

theorem mem_dropFinal {a b : α} {text : List α} (h : b ∈ dropFinal a text) : b ∈ text := by
  unfold dropFinal at h
  split at h
  · exact List.dropLast_subset text h
  · exact h

theorem not_mem_of_mem_lines {text line : List α} (h : line ∈ lines newline ret text) :
    newline ∉ line := by
  induction text using induction_lines newline with
  | last text ht =>
    rw [lines_of_not_mem ht] at h
    split at h
    · cases h
    · rw [List.mem_singleton] at h
      rwa [h]
  | line left right hl ih =>
    rw [lines_append_cons right hl, List.mem_cons] at h
    rcases h with rfl | h
    · exact fun hm => hl (mem_dropFinal hm)
    · exact ih h

end

namespace Text

/-! ## Bytes and text -/

theorem utf8_eq_nil_iff {text : Text} : text.utf8 = [] ↔ text = [] := by
  cases text with
  | nil => simp
  | cons c rest =>
    have hc : String.utf8EncodeChar c ≠ [] := by
      rw [← List.length_pos_iff, String.length_utf8EncodeChar]
      exact Char.utf8Size_pos c
    simp [hc]

theorem dropFinal_utf8 (text : Text) :
    dropFinal Bytes.carriageReturn text.utf8 = utf8 (dropFinal '\r' text) := by
  rcases List.eq_nil_or_concat text with rfl | ⟨front, c, rfl⟩
  · rfl
  · rw [List.concat_eq_append, dropFinal_concat]
    by_cases hc : c = '\r'
    · have hr : utf8 (front ++ ['\r']) = utf8 front ++ [Bytes.carriageReturn] := by
        rw [utf8_append]
        rfl
      rw [if_pos hc, hc, hr, dropFinal_concat, if_pos rfl]
    · rw [if_neg hc, dropFinal_eq_self_iff, utf8_append]
      intro hl
      -- the last byte is one of the last character
      have hne : utf8 [c] ≠ [] := mt utf8_eq_nil_iff.1 (by simp)
      rw [List.getLast?_append, List.getLast?_eq_some_getLast hne, Option.some_or,
        Option.some_inj] at hl
      have hm : Bytes.carriageReturn ∈ utf8 [c] := hl ▸ List.getLast_mem hne
      rw [utf8_cons, utf8_nil, List.append_nil] at hm
      exact hc ((mem_utf8EncodeChar_of_ascii (a := '\r') (by decide)).1 hm)

theorem lines_utf8 (text : Text) :
    lines Bytes.newline Bytes.carriageReturn text.utf8 =
      (lines '\n' '\r' text).map utf8 := by
  induction text using induction_lines '\n' with
  | last text h =>
    rw [lines_of_not_mem h, lines_of_not_mem (mt newline_mem_utf8.1 h)]
    by_cases ht : text = [] <;> simp [ht, utf8_eq_nil_iff]
  | line left right h ih =>
    have hn : utf8 (left ++ '\n' :: right) = utf8 left ++ Bytes.newline :: utf8 right := by
      rw [utf8_append]
      rfl
    rw [hn, lines_append_cons _ h, lines_append_cons _ (mt newline_mem_utf8.1 h), ih,
      dropFinal_utf8, List.map_cons]

end Text

end LineShell
