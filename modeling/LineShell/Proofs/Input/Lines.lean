import LineShell.Input

/-!
# The lines of an input

`Input.lines` are the lines that an input holds, whatever the size of its chunks: the pieces that
a newline ends, and the rest after them if it is not empty and the data does not end in an error.
`readLine_line` and `readLine_done` say that reading gives these lines one by one.
-/

namespace LineShell

/-! ## Cutting at the first separator -/

section
variable {α : Type} [DecidableEq α] {sep : α}

theorem cutAt_append_of_some {left right : List α} {text : List α} (more : List α)
    (h : cutAt sep text = some (left, right)) :
    cutAt sep (text ++ more) = some (left, right ++ more) := by
  obtain ⟨rfl, hl⟩ := cutAt_eq_some h
  rw [List.append_assoc, List.cons_append]
  exact cutAt_append _ hl

theorem cutAt_append_of_none {text : List α} (more : List α) (h : cutAt sep text = none) :
    cutAt sep (text ++ more) = (cutAt sep more).map fun (l, r) => (text ++ l, r) := by
  have hn := cutAt_eq_none_iff.1 h
  cases hm : cutAt sep more with
  | none =>
    refine cutAt_eq_none_iff.2 fun hmem => ?_
    rcases List.mem_append.1 hmem with hmem | hmem
    · exact hn hmem
    · exact cutAt_eq_none_iff.1 hm hmem
  | some cut =>
    obtain ⟨left, right⟩ := cut
    obtain ⟨rfl, hl⟩ := cutAt_eq_some hm
    rw [← List.append_assoc]
    refine cutAt_append _ fun hmem => ?_
    rcases List.mem_append.1 hmem with hmem | hmem
    · exact hn hmem
    · exact hl hmem

theorem split_of_cutAt_none {text : List α} (h : cutAt sep text = none) :
    split sep text = [text] := by
  induction text with
  | nil => rfl
  | cons a rest ih =>
    have hn := cutAt_eq_none_iff.1 h
    rw [List.mem_cons, not_or] at hn
    have ha : ¬ a = sep := fun e => hn.1 e.symm
    rw [split, ih (cutAt_eq_none_iff.2 hn.2)]
    simp only [ha, ↓reduceIte]

theorem split_of_cutAt_some {left right text : List α} (h : cutAt sep text = some (left, right)) :
    split sep text = left :: split sep right := by
  obtain ⟨rfl, hl⟩ := cutAt_eq_some h
  clear h
  induction left with
  | nil =>
    obtain ⟨piece, pieces, hs, hc⟩ := split_cons sep sep right
    rw [List.nil_append, hc, hs, if_pos rfl]
  | cons a left ih =>
    rw [List.mem_cons, not_or] at hl
    have ha : ¬ a = sep := fun e => hl.1 e.symm
    rw [List.cons_append, split, ih hl.2]
    simp only [ha, ↓reduceIte]

end

namespace Input

/-- The bytes that can still be read. -/
def data (input : Input) : Bytes := input.buffered ++ input.unread

/-- The lines of the input: the pieces that a newline ends, and what is left after the last one,
unless that is empty or cut short by an error. -/
def lines (input : Input) : List Bytes :=
  let pieces := split Bytes.newline input.data
  pieces.dropLast ++
    if input.broken then [] else pieces.getLast?.toList.filter (!·.isEmpty)

theorem lines_of_cutAt_some {input rest : Input} {line : Bytes}
    (h : cutAt Bytes.newline input.data = some (line, rest.data))
    (hb : rest.broken = input.broken) : input.lines = line :: rest.lines := by
  unfold lines
  rw [split_of_cutAt_some h, hb]
  have hne := split_ne_nil Bytes.newline rest.data
  simp only [List.dropLast_cons_of_ne_nil hne, List.getLast?_cons_of_ne_nil hne, List.cons_append]

theorem lines_of_cutAt_none {input : Input} (h : cutAt Bytes.newline input.data = none) :
    input.lines = if input.broken ∨ input.data = [] then [] else [input.data] := by
  unfold lines
  rw [split_of_cutAt_none h]
  cases input.broken <;> cases input.data <;> simp

/-! ## Reading through the buffer -/

theorem data_consume (input : Input) (rest : Bytes) :
    (input.consume rest).data = rest ++ (input.consume []).data := rfl

theorem data_eq_available_append (input : Input) :
    input.data = input.available ++ (input.consume []).data := by
  unfold data available consume
  split
  · rename_i h
    rw [List.isEmpty_iff.1 h]
    simp
  · rfl

theorem data_eq_nil {input : Input} (h : input.available.isEmpty) : input.data = [] := by
  obtain ⟨unread, buffered, size, size_pos, broken⟩ := input
  cases buffered with
  | nil =>
    have hu : unread.take size = [] := by simpa [available] using h
    rcases List.take_eq_nil_iff.1 hu with hs | hu
    · omega
    · simp [data, hu]
  | cons b bs => simp [available] at h

/-- Up to the next newline, the bytes are the same however they are cut into chunks. -/
theorem gather_of_cutAt_some {input : Input} {left right : Bytes} (line : Bytes)
    (h : cutAt Bytes.newline input.data = some (left, right)) :
    ∃ rest, input.gather line = (.line, line ++ left, rest) ∧ rest.data = right ∧
      rest.broken = input.broken := by
  induction input, line using gather.induct generalizing left with
  | case1 input line ha =>
    rw [data_eq_nil ha] at h
    cases h
  | case2 input line ha before rest hc =>
    rw [data_eq_available_append, cutAt_append_of_some _ hc] at h
    cases h
    refine ⟨input.consume rest, ?_, data_consume input rest, rfl⟩
    rw [gather, if_neg ha]
    split <;> simp_all
  | case3 input line ha hc ih =>
    rw [data_eq_available_append, cutAt_append_of_none _ hc] at h
    obtain ⟨⟨l, r⟩, hl, he⟩ := Option.map_eq_some_iff.1 h
    cases he
    obtain ⟨rest, hg, hd, hb⟩ := ih hl
    refine ⟨rest, ?_, hd, hb⟩
    rw [gather, if_neg ha, ← List.append_assoc, ← hg]
    split <;> simp_all

theorem gather_of_cutAt_none {input : Input} (line : Bytes)
    (h : cutAt Bytes.newline input.data = none) :
    ∃ rest, input.gather line =
        (if input.broken then .failed else if (line ++ input.data).isEmpty then .finished
          else .line, line ++ input.data, rest) ∧ rest.data = [] ∧ rest.broken = input.broken := by
  induction input, line using gather.induct with
  | case1 input line ha =>
    have hd := data_eq_nil ha
    refine ⟨input, ?_, hd, rfl⟩
    rw [gather, if_pos ha, hd, List.append_nil]
  | case2 input line ha before rest hc =>
    rw [data_eq_available_append, cutAt_append_of_some _ hc] at h
    cases h
  | case3 input line ha hc ih =>
    have hd := data_eq_available_append input
    rw [hd, cutAt_append_of_none _ hc, Option.map_eq_none_iff] at h
    obtain ⟨rest, hg, hr, hb⟩ := ih h
    refine ⟨rest, ?_, hr, hb⟩
    rw [gather, if_neg ha, hd, ← List.append_assoc]
    split
    · simp_all
    · exact hg

/-! ## Reading line by line -/

theorem readLine_eq_gather (input : Input) (buffer : Bytes) :
    input.readLine buffer = input.gather [] := by
  rw [readLine, clear, List.take_zero]

theorem readLine_line {input : Input} {line : Bytes} {more : List Bytes} (buffer : Bytes)
    (h : input.lines = line :: more) :
    ∃ rest, input.readLine buffer = (.line, line, rest) ∧ rest.lines = more := by
  rw [readLine_eq_gather]
  cases hc : cutAt Bytes.newline input.data with
  | some cut =>
    obtain ⟨left, right⟩ := cut
    obtain ⟨rest, hg, hd, hb⟩ := gather_of_cutAt_some [] hc
    rw [lines_of_cutAt_some (hd ▸ hc) hb] at h
    cases h
    exact ⟨rest, hg, rfl⟩
  | none =>
    obtain ⟨rest, hg, hd, hb⟩ := gather_of_cutAt_none [] hc
    rw [lines_of_cutAt_none hc] at h
    split at h
    · cases h
    · rename_i hn
      cases h
      rw [not_or] at hn
      refine ⟨rest, ?_, ?_⟩
      · rw [hg, if_neg hn.1, if_neg (by simpa using hn.2), List.nil_append]
      · rw [lines_of_cutAt_none (by rw [hd]; rfl), if_pos (.inr hd)]

theorem readLine_done {input : Input} (buffer : Bytes) (h : input.lines = []) :
    ∃ line rest, input.readLine buffer =
      (if input.broken then .failed else .finished, line, rest) := by
  rw [readLine_eq_gather]
  cases hc : cutAt Bytes.newline input.data with
  | some cut =>
    obtain ⟨left, right⟩ := cut
    obtain ⟨rest, hg, hd, hb⟩ := gather_of_cutAt_some [] hc
    rw [lines_of_cutAt_some (hd ▸ hc) hb] at h
    cases h
  | none =>
    obtain ⟨rest, hg, hd, hb⟩ := gather_of_cutAt_none [] hc
    rw [lines_of_cutAt_none hc] at h
    split at h
    · rename_i hn
      refine ⟨[] ++ input.data, rest, ?_⟩
      rw [hg]
      by_cases hbroken : input.broken = true
      · rw [if_pos hbroken, if_pos hbroken]
      · have he := hn.resolve_left hbroken
        rw [if_neg hbroken, if_neg hbroken, if_pos (by simpa using he)]
    · cases h

end Input

end LineShell
