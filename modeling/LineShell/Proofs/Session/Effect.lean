import LineShell.Proofs.Session.Turns

/-!
# What a line can change

`Standard.Effect` lists what a built-in command can come to, and every command of the standard
registry comes to one of these (`Standard.effect_run`). Concluding a command touches nothing but
the error stream and the status. A line launches what its action says and nothing else
(`perform_calls`).
-/

namespace LineShell

variable {σ κ ω : Type}

/-! ## Concluding a command -/

namespace Shell

/-- Concluding a command touches only the error stream and the status. -/
theorem exists_conclude_eq (shell : Shell σ κ ω) (status : Status) :
    ∃ err code, (shell.conclude status).2 = { shell with err, status := code } := by
  unfold conclude
  split
  · exact ⟨shell.err, _, rfl⟩
  · exact ⟨shell.err, shell.status, rfl⟩
  · exact ⟨shell.err, shell.status, rfl⟩
  · split
    · exact ⟨shell.err, shell.status, rfl⟩
    · exact ⟨_, 1, rfl⟩

@[simp] theorem conclude_store (shell : Shell σ κ ω) (status : Status) :
    (shell.conclude status).2.store = shell.store := by
  obtain ⟨_, _, h⟩ := shell.exists_conclude_eq status
  rw [h]

@[simp] theorem conclude_system (shell : Shell σ κ ω) (status : Status) :
    (shell.conclude status).2.system = shell.system := by
  obtain ⟨_, _, h⟩ := shell.exists_conclude_eq status
  rw [h]

theorem conclude_fault {cause : ShellError} (shell : Shell σ κ ω) (h : cause.isFatal = false) :
    shell.conclude (.error cause) = (.proceed, shell.fail cause.message) := by
  unfold conclude
  simp only [h, Bool.false_eq_true, ↓reduceIte]

end Shell

variable [Store σ]

/-! ## Built-in commands -/

/-- What a built-in command comes to: it says farewell, prints something, enters a directory, sets
a variable, or returns an error that is not fatal and changes nothing. -/
inductive Standard.Effect (scene : Scene σ ω) : Standard → Status → Scene σ ω → Prop where
  | farewell (line : Text) :
      Effect scene .exit (.ok .exit) { scene with out := scene.out.writeLine line }
  | printed (command : Standard) (data : Bytes) :
      Effect scene command (scene.print data).1 (scene.print data).2
  | entered (dir : ω) : Effect scene .changeDir (.ok (.code 0)) { scene with dir }
  | exported {name value : Bytes} {store : σ} : Store.set scene.store name value = .ok store →
      Effect scene .exportVar (.ok (.code 0)) { scene with store }
  | refused (command : Standard) {cause : ShellError} : cause.isFatal = false →
      Effect scene command (.error cause) scene

namespace Standard

theorem effect_run (command : Standard) (config : Config) (host : Host κ ω) (system : κ)
    (args : List Bytes) (scene : Scene σ ω) :
    command.Effect scene ((command.builtin config).run host system args scene).1
      ((command.builtin config).run host system args scene).2 := by
  cases command with
  | exit => exact .farewell config.farewell
  | changeDir =>
    dsimp only [builtin, Builtin.changeDir]
    split
    · exact .refused _ rfl
    · split
      · exact .entered _
      · exact .refused _ rfl
  | printDir =>
    dsimp only [builtin, Builtin.printDir]
    split
    · exact .printed _ _
    · exact .refused _ rfl
  | echo => exact .printed _ _
  | exportVar =>
    dsimp only [builtin, Builtin.exportVar]
    split
    · exact .refused _ rfl
    · split
      · exact .refused _ rfl
      · split
        · rename_i h
          exact .exported h
        · exact .refused _ rfl

namespace Effect

variable {scene after : Scene σ ω} {command : Standard} {status : Status}

/-- A built-in command leaves the error stream to the shell. -/
theorem err_eq (h : command.Effect scene status after) : after.err = scene.err := by
  cases h <;> rfl

theorem store_eq (h : command.Effect scene status after) (hc : command ≠ .exportVar) :
    after.store = scene.store := by
  cases h with
  | exported _ => exact absurd rfl hc
  | farewell _ => rfl
  | printed _ _ => rfl
  | entered _ => rfl
  | refused _ _ => rfl

/-- A built-in command that succeeds returns the code zero, unless it is to end the session. -/
theorem of_ok {outcome : Outcome} (h : command.Effect scene (.ok outcome) after)
    (hc : command ≠ .exit) : outcome = .code 0 := by
  generalize hs : (Except.ok outcome : Status) = status at h
  cases h with
  | farewell _ => exact absurd rfl hc
  | printed _ data =>
    unfold Scene.print at hs
    dsimp only at hs
    split at hs <;> cases hs
    rfl
  | entered _ =>
    cases hs
    rfl
  | exported _ =>
    cases hs
    rfl
  | refused _ _ => cases hs

/-- A built-in command that returns an error has at most printed something. -/
theorem of_error {cause : ShellError} (h : command.Effect scene (.error cause) after) :
    cause.isFatal = false ∧ ∃ out, after = { scene with out } := by
  generalize hs : (Except.error cause : Status) = status at h
  cases h with
  | farewell _ => cases hs
  | printed _ data =>
    unfold Scene.print at hs
    dsimp only at hs
    split at hs <;> cases hs
    exact ⟨rfl, _, rfl⟩
  | entered _ => cases hs
  | exported _ => cases hs
  | refused _ hf =>
    cases hs
    exact ⟨hf, scene.out, rfl⟩

end Effect

end Standard

/-! ## Launches -/

/-- The commands that an action launches: one if it is a launch, and otherwise none. -/
def Action.launches : Action → List Command
  | .launch command => [command]
  | _ => []

namespace Session

/-- Only a launch touches the system. -/
theorem perform_system (session : Session σ κ ω) (shell : Shell σ κ ω) (action : Action) :
    action.launches = [] ∧ (session.perform shell action).2.system = shell.system ∨
      ∃ command, action = .launch command ∧ (session.perform shell action).2.system =
        (session.host.launch shell.system shell.dir command (Store.view shell.store)).system := by
  cases action with
  | refuse cause => exact .inl ⟨rfl, rfl⟩
  | nothing => exact .inl ⟨rfl, rfl⟩
  | run command args =>
    rw [perform_run, Shell.conclude_system]
    exact .inl ⟨rfl, rfl⟩
  | assign name value => exact .inl ⟨rfl, rfl⟩
  | launch command =>
    dsimp only [perform]
    rw [Shell.conclude_system]
    exact .inr ⟨command, rfl, rfl⟩

theorem perform_calls (session : Session σ κ ω) (shell : Shell σ (Recorded κ) ω)
    (action : Action) :
    (session.recording.perform shell action).2.system.calls =
      shell.system.calls ++ action.launches := by
  rcases session.recording.perform_system shell action with ⟨hl, hs⟩ | ⟨command, rfl, hs⟩
  · rw [hl, hs, List.append_nil]
  · rw [hs]
    rfl

end Session

end LineShell
