import LineShell.Sink

/-!
# Sinks that are full, and sinks that never are

A sink without a bound takes everything. `Sink.cut` is what another would have accepted of the same
data (`cut_write`), so that two runs can be compared that differ in the bound. It makes no
difference whether data is written at once or in pieces, up to the first that does not fit
(`writeEach_eq`).
-/

namespace LineShell.Sink

@[simp] theorem write_nil (sink : Sink) : sink.write [] = sink := by
  obtain ⟨accepted, room⟩ := sink
  cases room <;> simp [write]

theorem fits_nil (sink : Sink) : sink.fits [] := by
  obtain ⟨accepted, room⟩ := sink
  cases room with
  | none => rfl
  | some room => exact decide_eq_true (Nat.zero_le room)

/-! ## Sinks without a bound, and the same cut off -/

theorem fits_of_room_none {sink : Sink} (h : sink.room = none) (data : Bytes) :
    sink.fits data := by
  unfold fits
  rw [h]

theorem write_of_room_none {sink : Sink} (h : sink.room = none) (data : Bytes) :
    sink.write data = ⟨sink.accepted ++ data, none⟩ := by
  unfold write
  rw [h]

theorem room_write {sink : Sink} (h : sink.room = none) (data : Bytes) :
    (sink.write data).room = none := by
  rw [write_of_room_none h]

/-- The sink that accepts `n` bytes in all, after it has been written the same. -/
def cut (n : Nat) (sink : Sink) : Sink :=
  ⟨sink.accepted.take n, some (n - sink.accepted.length)⟩

theorem cut_write {sink : Sink} (h : sink.room = none) (n : Nat) (data : Bytes) :
    (sink.write data).cut n = (sink.cut n).write data := by
  rw [write_of_room_none h]
  unfold cut write
  dsimp only
  rw [List.take_append, List.length_append, Nat.sub_add_eq]

theorem cut_ofLimit (n : Nat) : (ofLimit none).cut n = ofLimit (some n) := by
  unfold cut ofLimit
  dsimp only
  rw [List.take_nil, List.length_nil, Nat.sub_zero]

/-! ## Writing in pieces -/

/-- Writes the pieces one after the other, up to the first for which there is no room; also whether
there was room for all of them. -/
def writeEach (sink : Sink) : List Bytes → Bool × Sink
  | [] => (true, sink)
  | piece :: rest =>
    if sink.fits piece then (sink.write piece).writeEach rest else (false, sink.write piece)

theorem fits_append (sink : Sink) (a b : Bytes) :
    sink.fits (a ++ b) = (sink.fits a && (sink.write a).fits b) := by
  obtain ⟨accepted, room⟩ := sink
  cases room with
  | none => rfl
  | some room =>
    unfold fits write
    dsimp only
    rw [List.length_append, ← Bool.decide_and]
    congr 1
    refine propext ?_
    omega

theorem write_append_of_not_fits {sink : Sink} {a : Bytes} (b : Bytes) (h : sink.fits a = false) :
    sink.write (a ++ b) = sink.write a := by
  obtain ⟨accepted, room⟩ := sink
  cases room with
  | none => cases h
  | some room =>
    have hr : room < a.length := by
      unfold fits at h
      simpa using h
    unfold write
    dsimp only
    rw [List.take_append_of_le_length (Nat.le_of_lt hr), List.length_append]
    congr 2
    omega

/-- It does not show in how many pieces something is written. -/
theorem writeEach_eq (sink : Sink) (pieces : List Bytes) :
    sink.writeEach pieces = (sink.fits pieces.flatten, sink.write pieces.flatten) := by
  induction pieces generalizing sink with
  | nil => rw [writeEach, List.flatten_nil, fits_nil, write_nil]
  | cons piece rest ih =>
    rw [writeEach, List.flatten_cons, fits_append]
    cases hf : sink.fits piece with
    | true => rw [if_pos rfl, ih, write_append, Bool.true_and]
    | false => rw [if_neg (by decide), write_append_of_not_fits _ hf, Bool.false_and]

example : (ofLimit (some 2)).writeEach [[1], [2], [], [3], []] = (false, ⟨[1, 2], some 0⟩) := by
  decide

end LineShell.Sink
