import LineShell.Bytes

/-!
# Output with a bound

A `Sink` accepts bytes until its room is used up. A write takes what fits and succeeds if that is
everything, so what a sink has accepted is always a beginning of what was written to it.
-/

namespace LineShell

/-- What has been accepted so far, and how many more bytes will be (`none` is no bound). -/
structure Sink where
  accepted : Bytes
  room : Option Nat
  deriving DecidableEq, Repr

namespace Sink

/-- A sink that has accepted nothing yet. -/
def ofLimit (limit : Option Nat) : Sink := ⟨[], limit⟩

/-- The text of the error of a write for which there is no room. -/
def fullMessage : Text := "sink full".toList

def write (sink : Sink) (data : Bytes) : Sink :=
  match sink.room with
  | none => ⟨sink.accepted ++ data, none⟩
  | some room => ⟨sink.accepted ++ data.take room, some (room - data.length)⟩

/-- Whether the data would be accepted as a whole. -/
def fits (sink : Sink) (data : Bytes) : Bool :=
  match sink.room with
  | none => true
  | some room => data.length ≤ room

/-- Writes the text as a line of its own. -/
def writeLine (sink : Sink) (line : Text) : Sink := sink.write (line.utf8 ++ [Bytes.newline])

theorem write_append (sink : Sink) (a b : Bytes) :
    (sink.write a).write b = sink.write (a ++ b) := by
  obtain ⟨accepted, room⟩ := sink
  cases room with
  | none => simp [write]
  | some room => simp [write, List.take_append, Nat.sub_sub]

end Sink

end LineShell
