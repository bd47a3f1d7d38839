import LineShell.Bytes
import LineShell.Pieces

/-!
# Reading lines through a buffer

An `Input` hands out its data in chunks of bounded size, and ends in the end of the data or in an
error. `Input.readLine` reads up to the next newline into a buffer of the caller, in place of
what that held. Every line takes at least one byte from the input
(`remaining_lt_of_readLine_eq_line`), so that reading comes to an end.
-/

namespace LineShell

/-- Data that is read in chunks: what is not yet read, what is left of the last chunk, the size
of a chunk, and whether an error comes after the data. -/
structure Input where
  unread : Bytes
  buffered : Bytes := []
  size : Nat
  size_pos : 0 < size
  broken : Bool := false

/-- What came of an attempt to read a line. -/
inductive ReadOutcome where
  | line
  | finished
  | failed
  deriving DecidableEq, Repr

namespace Input

/-- How many bytes can still be read. -/
def remaining (input : Input) : Nat := input.buffered.length + input.unread.length

/-- The bytes at hand, with the next chunk read if there are none. -/
def available (input : Input) : Bytes :=
  if input.buffered.isEmpty then input.unread.take input.size else input.buffered

/-- The input after the bytes at hand have been used up except for the last ones, `rest`. -/
def consume (input : Input) (rest : Bytes) : Input :=
  { input with
    buffered := rest
    unread := if input.buffered.isEmpty then input.unread.drop input.size else input.unread }

theorem remaining_consume (input : Input) (rest : Bytes) :
    (input.consume rest).remaining + input.available.length = rest.length + input.remaining := by
  obtain ⟨unread, buffered, size, _, _⟩ := input
  cases buffered with
  | nil =>
    simp only [consume, remaining, available, List.isEmpty_nil, if_true, List.length_nil,
      List.length_take, List.length_drop]
    omega
  | cons b bs =>
    simp only [consume, remaining, available, List.isEmpty_cons, Bool.false_eq_true, if_false]
    omega

/-- Reads up to the next newline, adding to `line`, and drops the newline. -/
def gather (input : Input) (line : Bytes) : ReadOutcome × Bytes × Input :=
  if input.available.isEmpty then
    (if input.broken then .failed else if line.isEmpty then .finished else .line, line, input)
  else
    match cutAt Bytes.newline input.available with
    | some (before, rest) => (.line, line ++ before, input.consume rest)
    | none => gather (input.consume []) (line ++ input.available)
termination_by input.remaining
decreasing_by
  have := remaining_consume input []
  have : 0 < input.available.length := by
    rw [List.length_pos_iff]
    intro hn
    simp_all
  simp only [List.length_nil] at *
  omega

/-- The buffer with nothing in it. -/
def clear (buffer : Bytes) : Bytes := buffer.take 0

/-- Reads the next line into the buffer. -/
def readLine (input : Input) (buffer : Bytes) : ReadOutcome × Bytes × Input :=
  input.gather (clear buffer)

theorem remaining_gather (input : Input) (line : Bytes) :
    (input.gather line).2.2.remaining ≤ input.remaining ∧
      ((input.gather line).1 = .line → line = [] →
        (input.gather line).2.2.remaining < input.remaining) := by
  induction input, line using gather.induct with
  | case1 input line h =>
    rw [gather, if_pos h]
    refine ⟨Nat.le_refl _, ?_⟩
    rintro h rfl
    split at h <;> simp_all
  | case2 input line h before rest hc =>
    have hg : input.gather line = (.line, line ++ before, input.consume rest) := by
      rw [gather, if_neg h]
      split <;> simp_all
    have hr := remaining_consume input rest
    have hl := congrArg List.length (cutAt_eq_some hc).1
    simp only [List.length_append, List.length_cons] at hl
    rw [hg]
    exact ⟨by dsimp only; omega, fun _ _ => by dsimp only; omega⟩
  | case3 input line h hc ih =>
    have hg : input.gather line = (input.consume []).gather (line ++ input.available) := by
      rw [gather, if_neg h]
      split <;> simp_all
    have hr := remaining_consume input []
    have ha : 0 < input.available.length := by
      rw [List.length_pos_iff]
      intro hn
      simp_all
    simp only [List.length_nil] at hr
    rw [hg]
    exact ⟨by omega, fun _ _ => by omega⟩

theorem remaining_lt_of_readLine_eq_line {input rest : Input} {buffer line : Bytes}
    (h : input.readLine buffer = (.line, line, rest)) : rest.remaining < input.remaining := by
  have := (remaining_gather input []).2
  rw [readLine, clear, List.take_zero] at h
  rw [h] at this
  exact this rfl rfl

end Input

end LineShell
