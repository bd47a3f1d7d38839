import LineShell.Proofs.Input.Lines
import LineShell.Proofs.Sink
import LineShell.Shell
import Mathlib.Data.List.Infix

/-!
# Reading an input to its end

`Input.ask` is one call for a line: it writes the prompt and reads into the buffer. `Input.askAll`
repeats it with the same buffer until there is no line. The lines that it gives are the pieces of
the data between newlines (`LinesOf`), which put together again are the data: nothing is lost, and
nothing comes from the buffer. If the data ends in an error, they are the lines of what comes before
the unfinished one (`askAll_lossless`).
-/

namespace LineShell

/-! ## Lines put together -/

namespace Bytes

/-- The pieces with a newline after each. -/
def glue (pieces : List Bytes) : Bytes := pieces.flatMap (· ++ [newline])

/-- No line of the text is unfinished: it is empty, or it ends in a newline. -/
def Complete (text : Bytes) : Prop := text = [] ∨ text.getLast? = some newline

instance (text : Bytes) : Decidable (Complete text) := inferInstanceAs (Decidable (_ ∨ _))

/-- The pieces have no newline, and with a newline after each they are the text, in which a last
line that is unfinished has got one too. -/
structure LinesOf (pieces : List Bytes) (text : Bytes) : Prop where
  newline_not_mem : ∀ piece ∈ pieces, newline ∉ piece
  of_complete : Complete text → glue pieces = text
  of_not_complete : ¬ Complete text → glue pieces = text ++ [newline]

/-- The longest beginning of the text without an unfinished line. -/
structure LongestComplete (whole text : Bytes) : Prop where
  prefix_text : whole <+: text
  complete : Complete whole
  longest : ∀ other, other <+: text → Complete other → other.length ≤ whole.length

@[simp] theorem glue_nil : glue [] = [] := rfl

@[simp] theorem glue_cons (piece : Bytes) (pieces : List Bytes) :
    glue (piece :: pieces) = piece ++ newline :: glue pieces := by
  simp [glue]

theorem glue_append (first second : List Bytes) :
    glue (first ++ second) = glue first ++ glue second :=
  List.flatMap_append

theorem complete_glue (pieces : List Bytes) : Complete (glue pieces) := by
  rcases List.eq_nil_or_concat pieces with rfl | ⟨front, piece, rfl⟩
  · exact .inl rfl
  · right
    rw [List.concat_eq_append, glue_append, glue_cons, glue_nil, ← List.append_assoc,
      List.getLast?_concat]

theorem join_concat (front : List Bytes) (last : Bytes) :
    join newline (front ++ [last]) = glue front ++ last := by
  induction front with
  | nil => rfl
  | cons piece front ih =>
    obtain ⟨next, rest, h⟩ := List.exists_cons_of_ne_nil (l := front ++ [last]) (by simp)
    rw [h] at ih
    rw [List.cons_append, h, join, ih]
    simp

theorem split_glue {pieces : List Bytes} (h : ∀ piece ∈ pieces, newline ∉ piece) :
    split newline (glue pieces) = pieces ++ [[]] := by
  induction pieces with
  | nil => rfl
  | cons piece pieces ih =>
    rw [List.forall_mem_cons] at h
    rw [glue_cons, split_of_cutAt_some (cutAt_append _ h.1), ih h.2, List.cons_append]

/-- A text is its finished lines with a newline after each, and a rest without one. -/
theorem exists_front (text : Bytes) :
    ∃ front last, split newline text = front ++ [last] ∧ text = glue front ++ last ∧
      (∀ piece ∈ front, newline ∉ piece) ∧ newline ∉ last := by
  obtain ⟨front, last, h⟩ := List.eq_nil_or_concat' (split newline text) |>.resolve_left
    (split_ne_nil newline text)
  have hm : ∀ piece ∈ front ++ [last], newline ∉ piece := fun piece hp =>
    not_mem_of_mem_split (h ▸ hp)
  rw [List.forall_mem_append, List.forall_mem_singleton] at hm
  refine ⟨front, last, h, ?_, hm.1, hm.2⟩
  rw [← join_concat, ← h, join_split]

/-- What is left after the last newline is an unfinished line. -/
theorem not_complete_append (front : Bytes) {rest : Bytes} (hr : newline ∉ rest)
    (hne : rest ≠ []) : ¬ Complete (front ++ rest) := by
  rintro (hc | hc)
  · exact hne (List.append_eq_nil_iff.1 hc).2
  · rw [List.getLast?_append_of_ne_nil _ hne] at hc
    exact hr (List.mem_of_getLast? hc)

theorem longestComplete_glue (front : List Bytes) {last : Bytes} (h : newline ∉ last) :
    LongestComplete (glue front) (glue front ++ last) where
  prefix_text := List.prefix_append _ _
  complete := complete_glue front
  longest other hp hc := by
    rcases List.prefix_or_prefix_of_prefix hp (List.prefix_append (glue front) last) with ho | ho
    · exact ho.length_le
    · -- what goes beyond the finished lines has no newline to end in
      obtain ⟨more, rfl⟩ := ho
      have hm : newline ∉ more := fun hm =>
        h (((List.prefix_append_right_inj _).1 hp).subset hm)
      cases more with
      | nil => rw [List.append_nil]
      | cons b more => exact absurd hc (not_complete_append _ hm (List.cons_ne_nil b more))

namespace LinesOf

theorem glue_eq {first second : List Bytes} {text : Bytes} (h₁ : LinesOf first text)
    (h₂ : LinesOf second text) : glue first = glue second := by
  by_cases hc : Complete text
  · rw [h₁.of_complete hc, h₂.of_complete hc]
  · rw [h₁.of_not_complete hc, h₂.of_not_complete hc]

theorem unique {first second : List Bytes} {text : Bytes} (h₁ : LinesOf first text)
    (h₂ : LinesOf second text) : first = second := by
  have hs := congrArg (split newline) (h₁.glue_eq h₂)
  rw [split_glue h₁.newline_not_mem, split_glue h₂.newline_not_mem] at hs
  exact List.append_cancel_right hs

theorem of_glue {front : List Bytes} (h : ∀ piece ∈ front, newline ∉ piece) :
    LinesOf front (glue front) :=
  ⟨h, fun _ => rfl, fun hn => absurd (complete_glue front) hn⟩

theorem of_unfinished {front : List Bytes} {last : Bytes} (h : ∀ piece ∈ front, newline ∉ piece)
    (hl : newline ∉ last) (hne : last ≠ []) : LinesOf (front ++ [last]) (glue front ++ last) where
  newline_not_mem := by
    rw [List.forall_mem_append, List.forall_mem_singleton]
    exact ⟨h, hl⟩
  of_complete hc := absurd hc (not_complete_append _ hl hne)
  of_not_complete _ := by
    rw [glue_append, glue_cons, glue_nil, List.append_assoc]

end LinesOf

end Bytes

/-! ## Calls for a line -/

/-- What came of a call for a line: the answer, what the buffer holds after it, and the sink with
the prompt. -/
structure LineCall where
  outcome : ReadOutcome
  buffer : Bytes
  out : Sink
  deriving DecidableEq

namespace Input

/-- Writes the prompt and reads a line into the buffer. -/
def ask (prompt : Text) (input : Input) (buffer : Bytes) (out : Sink) : LineCall × Input :=
  let (outcome, line, rest) := input.readLine buffer
  (⟨outcome, line, out.write prompt.utf8⟩, rest)

theorem remaining_ask {prompt : Text} {input : Input} {buffer : Bytes} {out : Sink}
    (h : (input.ask prompt buffer out).1.outcome = .line) :
    (input.ask prompt buffer out).2.remaining < input.remaining :=
  remaining_lt_of_readLine_eq_line (Prod.ext h rfl)

/-- The calls up to the first that gives no line, all with one buffer and one sink. -/
def askAll (prompt : Text) (input : Input) (buffer : Bytes) (out : Sink) : List LineCall :=
  let call := input.ask prompt buffer out
  if _h : call.1.outcome = .line then call.1 :: askAll prompt call.2 call.1.buffer call.1.out
  else [call.1]
termination_by input.remaining
decreasing_by exact remaining_ask _h

end Input

/-! ## The loop of a session makes these calls -/

theorem Session.run_eq_ask {σ κ ω : Type} [Store σ] (session : Session σ κ ω)
    (shell : Shell σ κ ω) (input : Input) (buffer : Bytes) :
    session.run shell input buffer =
      let (call, rest) := input.ask session.config.prompt buffer shell.out
      let shell : Shell σ κ ω := { shell with out := call.out }
      match call.outcome with
      | .line =>
        match session.advance shell call.buffer with
        | (none, shell) => session.run shell rest call.buffer
        | (some status, shell) => (status, shell)
      | .finished | .failed => (shell.status, shell) := by
  rw [Session.run, Input.ask]
  split
  all_goals
    rename_i h
    rw [h]
    rfl

namespace Input

/-! ## The lines of the data -/

/-- Which lines there are depends on the data and its end only. -/
theorem lines_congr {input other : Input} (hd : input.data = other.data)
    (hb : input.broken = other.broken) : input.lines = other.lines := by
  unfold lines
  rw [hd, hb]

theorem lines_of_split {input : Input} {front : List Bytes} {last : Bytes}
    (h : split Bytes.newline input.data = front ++ [last]) :
    input.lines = front ++ if input.broken then [] else [last].filter (!·.isEmpty) := by
  simp only [lines, h, List.dropLast_concat, List.getLast?_concat, Option.toList_some]

theorem exists_linesOf (input : Input) :
    ∃ text, (if input.broken then Bytes.LongestComplete text input.data else text = input.data) ∧
      Bytes.LinesOf input.lines text := by
  obtain ⟨front, last, hs, hd, hf, hl⟩ := Bytes.exists_front input.data
  rw [lines_of_split hs, hd]
  by_cases h : input.broken = true
  · simp only [if_pos h, List.append_nil]
    exact ⟨Bytes.glue front, Bytes.longestComplete_glue front hl, .of_glue hf⟩
  · simp only [if_neg h]
    refine ⟨Bytes.glue front ++ last, rfl, ?_⟩
    cases last with
    | nil =>
      rw [List.append_nil]
      simpa using Bytes.LinesOf.of_glue hf
    | cons b last => exact .of_unfinished hf hl (List.cons_ne_nil b last)

/-! ## All calls -/

theorem broken_readLine {input rest : Input} {buffer line : Bytes} {outcome : ReadOutcome}
    (h : input.readLine buffer = (outcome, line, rest)) : rest.broken = input.broken := by
  rw [readLine_eq_gather] at h
  cases hc : cutAt Bytes.newline input.data with
  | some cut =>
    obtain ⟨rest', hg, _, hb⟩ := gather_of_cutAt_some [] hc
    cases hg.symm.trans h
    exact hb
  | none =>
    obtain ⟨rest', hg, _, hb⟩ := gather_of_cutAt_none [] hc
    cases hg.symm.trans h
    exact hb

theorem ask_of_readLine (prompt : Text) {input rest : Input} {buffer line : Bytes}
    {outcome : ReadOutcome} (out : Sink) (h : input.readLine buffer = (outcome, line, rest)) :
    input.ask prompt buffer out = (⟨outcome, line, out.write prompt.utf8⟩, rest) := by
  rw [ask, h]

theorem askAll_of_line (prompt : Text) {input rest : Input} {buffer line : Bytes} (out : Sink)
    (h : input.readLine buffer = (.line, line, rest)) :
    input.askAll prompt buffer out =
      ⟨.line, line, out.write prompt.utf8⟩ :: rest.askAll prompt line (out.write prompt.utf8) := by
  rw [askAll, ask_of_readLine prompt out h, dif_pos rfl]

theorem askAll_of_not_line (prompt : Text) {input rest : Input} {buffer line : Bytes}
    {outcome : ReadOutcome} (out : Sink) (h : input.readLine buffer = (outcome, line, rest))
    (hn : outcome ≠ .line) :
    input.askAll prompt buffer out = [⟨outcome, line, out.write prompt.utf8⟩] := by
  rw [askAll, ask_of_readLine prompt out h, dif_neg hn]

/-- The answer that ends the reading. -/
def ending (input : Input) : ReadOutcome := if input.broken then .failed else .finished

theorem ending_ne_line (input : Input) : input.ending ≠ .line := by
  unfold ending
  split <;> decide

/-- The calls give the lines one by one, whatever was in the buffer before, and then the answer
that there are no more. -/
theorem exists_askAll (prompt : Text) {pieces : List Bytes} {input : Input} (buffer : Bytes)
    (out : Sink) (h : input.lines = pieces) :
    ∃ left, (input.askAll prompt buffer out).map (fun call => (call.outcome, call.buffer)) =
      pieces.map (ReadOutcome.line, ·) ++ [(input.ending, left)] := by
  induction pieces generalizing input buffer out with
  | nil =>
    obtain ⟨left, rest, hr⟩ := readLine_done buffer h
    refine ⟨left, ?_⟩
    rw [askAll_of_not_line prompt out hr input.ending_ne_line]
    rfl
  | cons piece pieces ih =>
    -- the line read is in the buffer of the next call, so the induction is over every buffer
    obtain ⟨rest, hr, hm⟩ := readLine_line buffer h
    obtain ⟨left, hl⟩ := ih piece (out.write prompt.utf8) hm
    refine ⟨left, ?_⟩
    have he : rest.ending = input.ending := by
      unfold ending
      rw [broken_readLine hr]
    rw [askAll_of_line prompt out hr, List.map_cons, hl, he]
    rfl

/-- In a sink without a bound, there is one prompt more after each call. -/
theorem out_askAll (prompt : Text) (input : Input) (buffer : Bytes) {out : Sink}
    (h : out.room = none) {i : ℕ} {call : LineCall}
    (hc : (input.askAll prompt buffer out)[i]? = some call) :
    call.out = ⟨out.accepted ++ (List.replicate (i + 1) prompt.utf8).flatten, none⟩ := by
  induction input, buffer, out using askAll.induct prompt generalizing i with
  | case1 input buffer out next hl ih =>
    have ho : next.1.out = ⟨out.accepted ++ prompt.utf8, none⟩ := Sink.write_of_room_none h _
    rw [askAll, dif_pos hl] at hc
    cases i with
    | zero =>
      obtain rfl : next.1 = call := by simpa using hc
      simpa using ho
    | succ i =>
      rw [ih (by rw [ho]) hc, ho, List.append_assoc, List.replicate_succ (n := i + 1),
        List.flatten_cons]
  | case2 input buffer out next hl =>
    have ho : next.1.out = ⟨out.accepted ++ prompt.utf8, none⟩ := Sink.write_of_room_none h _
    rw [askAll, dif_neg hl, List.getElem?_singleton] at hc
    split at hc
    · rename_i hi
      cases hc
      simpa [hi] using ho
    · cases hc

/-- **Reading loses and invents nothing.** The lines of the calls depend on the data and its end
only, not on what the buffer held, the chunks or the prompt. They are the lines of the data, or, if
the data ends in an error, of the longest beginning of it without an unfinished line. A sink without
a bound has accepted one prompt for each call. -/
theorem askAll_lossless (data : Bytes) (broken : Bool) :
    ∃ text pieces,
      (if broken then Bytes.LongestComplete text data else text = data) ∧
      (∀ others, Bytes.LinesOf others text ↔ others = pieces) ∧
      ∀ (input : Input) (prompt : Text) (buffer : Bytes) (out : Sink), input.data = data →
        input.broken = broken →
        (∃ left, (input.askAll prompt buffer out).map (fun call => (call.outcome, call.buffer)) =
          pieces.map (ReadOutcome.line, ·) ++ [(if broken then .failed else .finished, left)]) ∧
        (out.room = none → ∀ (i : ℕ) (call : LineCall),
          (input.askAll prompt buffer out)[i]? = some call →
          call.out = ⟨out.accepted ++ (List.replicate (i + 1) prompt.utf8).flatten, none⟩) := by
  let whole : Input := ⟨data, [], 1, Nat.one_pos, broken⟩
  obtain ⟨text, ht, hlines⟩ := whole.exists_linesOf
  refine ⟨text, whole.lines, ht, fun others => ⟨fun ho => ho.unique hlines, ?_⟩, ?_⟩
  · rintro rfl
    exact hlines
  · rintro input prompt buffer out hd rfl
    refine ⟨?_, fun h i call hc => out_askAll prompt input buffer h hc⟩
    exact exists_askAll prompt buffer out (lines_congr hd rfl)

/-- A last line without a newline, an empty line and a carriage return, in chunks of two bytes. -/
theorem askAll_lossless_unfinished :
    let data := bytes "ab\r\n\nc"
    let input : Input := { unread := data, size := 2, size_pos := Nat.two_pos }
    let out : Sink := ⟨bytes "!", none⟩
    let calls := input.askAll "> ".toList (bytes "old") out
    input.data = data ∧ input.broken = false ∧ out.room = none ∧
      (∃ left, calls.map (fun call => (call.outcome, call.buffer)) =
        [(.line, bytes "ab\r"), (.line, []), (.line, bytes "c"), (.finished, left)]) ∧
      ∃ call, calls[3]? = some call ∧ call.out = ⟨bytes "!> > > > ", none⟩ := by
  intro data input out calls
  obtain ⟨text, pieces, rfl, hp, hall⟩ := askAll_lossless data false
  obtain rfl := (hp [bytes "ab\r", [], bytes "c"]).1 ⟨by decide, by decide, by decide⟩
  obtain ⟨hcalls, hout⟩ := hall input "> ".toList (bytes "old") out rfl rfl
  obtain ⟨left, hl⟩ := hcalls
  have hlast : (calls.map fun call => (call.outcome, call.buffer))[3]? =
      some (.finished, left) := by
    rw [hl]
    rfl
  rw [List.getElem?_map] at hlast
  obtain ⟨call, hc, _⟩ := Option.map_eq_some_iff.1 hlast
  exact ⟨rfl, rfl, rfl, ⟨left, hl⟩, call, hc, hout rfl 3 call hc⟩

end Input

end LineShell
