import LineShell.Host

/-!
# Launches with prepared answers

A system of which only the directories are real: each launch is answered by the next of a list of
prepared answers, the last of which repeats, and every command is recorded.
-/

namespace LineShell

/-- A system, the answers to its launches, and the commands launched so far, in order. -/
structure Prepared (κ : Type) where
  base : κ
  answers : List Status
  calls : List Command := []

namespace Prepared

/-- The answer to the launch after `count` others; without any prepared one it is success. -/
def answer (answers : List Status) (count : Nat) : Status :=
  (answers[count]? <|> answers.getLast?).getD (.ok (.code 0))

end Prepared

/-- The host with prepared answers to its launches. -/
def Host.prepared {κ ω : Type} (host : Host κ ω) : Host (Prepared κ) ω where
  enter system := host.enter system.base
  path system := host.path system.base
  launch system _ command _ :=
    { status := Prepared.answer system.answers system.calls.length
      system := { system with calls := system.calls ++ [command] } }
  grants := host.grants

end LineShell
