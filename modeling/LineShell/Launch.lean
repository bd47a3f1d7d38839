import LineShell.Host
import LineShell.Launch.Child

/-!
# Launching commands

`launch` runs a command as a child process: it is planned first, so that a command which cannot
be planned starts no child, and the status is that of the child's end, once the system has told it.
-/

namespace LineShell

variable {κ φ : Type}

/-- The status of a child that has ended so, when the system first refuses to tell it with these
errors: it is asked again after an interruption, and any other error counts as a failure. -/
def waitFor (ending : Ending) : List Errno → Int
  | [] => ending.status
  | cause :: rest => if cause = .interrupted then waitFor ending rest else 1

/-- The status is that of the child's end, or 1 if the system refuses for another reason than an
interruption. -/
theorem waitFor_eq (ending : Ending) (refusals : List Errno) :
    waitFor ending refusals =
      if ∀ cause ∈ refusals, cause = .interrupted then ending.status else 1 := by
  induction refusals with
  | nil => rfl
  | cons cause rest ih =>
    rw [waitFor, ih]
    by_cases h : cause = .interrupted <;> simp [h]

/-- Runs a command in a child that starts with the given descriptors. -/
def launch (kernel : Kernel κ φ) (table : Descriptors φ) (system : κ) (command : Command)
    (view : View) : Status × κ :=
  if command.isEmpty then (.ok .unchanged, system)
  else
    match LaunchPlan.prepare command view with
    | .error cause => (.error cause, system)
    | .ok plan =>
      match kernel.fork system with
      | (.error cause, system) => (.error (.fork cause), system)
      | (.ok (), system) =>
        let (ending, system) := Child.live kernel ⟨system, table⟩ plan
        (.ok (.code (waitFor ending (kernel.waitErrors system ending))), system)

end LineShell
