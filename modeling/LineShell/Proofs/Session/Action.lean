import LineShell.Shell

/-!
# What a line asks for

`Session.action` says what a line asks the shell to do, which depends on the shell only through its
variables, and `Session.perform` does it. `runLine_eq_perform` puts the two together, with the
commands of the standard registry resolved by `Standard.ofName?`, so that a property of all lines
has one case for each kind of action.
-/

namespace LineShell

/-- The commands of the standard registry. -/
inductive Standard where
  | exit
  | changeDir
  | printDir
  | echo
  | exportVar
  deriving DecidableEq, Repr

/-- What a line asks for. -/
inductive Action where
  | refuse (cause : ParseError)
  | nothing
  | run (command : Standard) (args : List Bytes)
  | assign (name value : Bytes)
  | launch (command : Command)
  deriving DecidableEq, Repr

variable {σ κ ω : Type} [Store σ]

namespace Standard

def name : Standard → Bytes
  | exit => bytes "exit"
  | changeDir => bytes "cd"
  | printDir => bytes "pwd"
  | echo => bytes "echo"
  | exportVar => bytes "export"

def builtin (config : Config) : Standard → Builtin σ κ ω
  | exit => .exit config.farewell
  | changeDir => .changeDir
  | printDir => .printDir
  | echo => .echo
  | exportVar => .exportVar

def ofName? (name : Bytes) : Option Standard :=
  [exportVar, echo, printDir, changeDir, exit].find? (·.name = name)

theorem name_builtin (config : Config) (command : Standard) :
    (command.builtin config : Builtin σ κ ω).name.utf8 = command.name := by
  cases command <;> rfl

theorem ofName?_eq_some_iff {name : Bytes} {command : Standard} :
    ofName? name = some command ↔ name = command.name := by
  constructor
  · intro h
    have := List.find?_some h
    simpa [eq_comm] using this
  · rintro rfl
    cases command <;> decide

end Standard

theorem Registry.find?_standard (config : Config) (name : Bytes) :
    (Registry.standard config : Registry σ κ ω).find? name =
      (Standard.ofName? name).map (Standard.builtin config) := by
  have hc : (Registry.standard config : Registry σ κ ω).commands =
      [Standard.exportVar, .echo, .printDir, .changeDir, .exit].map (Standard.builtin config) :=
    rfl
  unfold find? Standard.ofName?
  rw [hc, List.find?_map]
  congr 2
  funext command
  simp only [Function.comp_apply, Standard.name_builtin]

namespace Action

/-- What words without redirections ask of the shell itself. -/
def ofTexts? : List Bytes → Option Action
  | [] => none
  | name :: args =>
    match Standard.ofName? name, args, Registry.assignment? name with
    | some command, _, _ => some (.run command args)
    | none, [], some (name, value) => some (.assign name value)
    | none, _, _ => none

def ofCommand (command : Command) : Action :=
  if command.isEmpty then .nothing
  else if command.redirections.isEmpty then (ofTexts? command.texts).getD (.launch command)
  else .launch command

theorem ofTexts?_eq_run_iff {texts args : List Bytes} {command : Standard} :
    ofTexts? texts = some (.run command args) ↔ texts = command.name :: args := by
  constructor
  · intro h
    unfold ofTexts? at h
    split at h
    · cases h
    · split at h
      · rename_i hn
        cases h
        rw [Standard.ofName?_eq_some_iff.1 hn]
      · cases h
      · cases h
  · rintro rfl
    have hn : Standard.ofName? command.name = some command :=
      Standard.ofName?_eq_some_iff.2 rfl
    unfold ofTexts?
    dsimp only
    rw [hn]

theorem ofTexts?_eq_assign_iff {texts : List Bytes} {name value : Bytes} :
    ofTexts? texts = some (.assign name value) ↔ ∃ word, texts = [word] ∧
      Standard.ofName? word = none ∧ Registry.assignment? word = some (name, value) := by
  constructor
  · intro h
    unfold ofTexts? at h
    split at h
    · cases h
    · split at h
      · cases h
      · rename_i hn ha
        cases h
        exact ⟨_, rfl, hn, ha⟩
      · cases h
  · rintro ⟨word, rfl, hn, ha⟩
    unfold ofTexts?
    dsimp only
    rw [hn, ha]

/-- A command that has no words asks for nothing, and one that is not for the shell itself asks to
be launched. -/
theorem ofCommand_cases (command : Command) :
    ofCommand command = .nothing ∨ ofCommand command = .launch command ∨
      command.redirections = [] ∧ ofTexts? command.texts = some (ofCommand command) := by
  unfold ofCommand
  split
  · exact .inl rfl
  · split
    · rename_i hr
      cases h : ofTexts? command.texts with
      | none => exact .inr (.inl rfl)
      | some action => exact .inr (.inr ⟨List.isEmpty_iff.1 hr, rfl⟩)
    · exact .inr (.inl rfl)

theorem ofCommand_eq {command : Command} {action : Action} (hr : command.redirections = [])
    (ht : ofTexts? command.texts = some action) : ofCommand command = action := by
  have hw : ¬ command.isEmpty := by
    intro h
    rw [Command.texts, List.isEmpty_iff.1 h] at ht
    cases ht
  unfold ofCommand
  rw [if_neg hw, hr, ht]
  rfl

end Action

namespace Session

/-- What a line asks for in a shell with these variables. -/
def action (session : Session σ κ ω) (store : σ) (line : Bytes) : Action :=
  match session.parse store line with
  | .error cause => .refuse cause
  | .ok command => .ofCommand command

def perform (session : Session σ κ ω) (shell : Shell σ κ ω) : Action → LineOutcome × Shell σ κ ω
  | .refuse cause => (.proceed, shell.fail cause.message)
  | .nothing => (.proceed, shell)
  | .run command args =>
    let (status, scene) :=
      (command.builtin session.config).run session.host shell.system args shell.toScene
    { shell with toScene := scene }.conclude status
  | .assign name value => (.proceed, { shell with toScene := shell.toScene.assign name value })
  | .launch command =>
    let reply := session.host.launch shell.system shell.dir command (Store.view shell.store)
    (shell.receive reply).conclude reply.status

theorem perform_run (session : Session σ κ ω) (shell : Shell σ κ ω) (command : Standard)
    (args : List Bytes) :
    session.perform shell (.run command args) =
      let ended := (command.builtin session.config).run session.host shell.system args shell.toScene
      Shell.conclude ⟨ended.2, shell.system, shell.status⟩ ended.1 :=
  rfl

theorem runCommand_eq_perform (session : Session σ κ ω) (shell : Shell σ κ ω) {command : Command}
    (h : ¬ command.isEmpty) :
    session.runCommand shell command = session.perform shell (.ofCommand command) := by
  unfold runCommand handle Action.ofCommand
  rw [if_neg h]
  by_cases hr : command.redirections.isEmpty
  · rw [if_pos hr, if_pos hr]
    cases ht : command.texts with
    | nil => rfl
    | cons name args =>
      simp only [Registry.dispatch, Registry.find?_standard, Action.ofTexts?]
      cases Standard.ofName? name with
      | some command => rfl
      | none =>
        cases args with
        | nil => cases Registry.assignment? name <;> rfl
        | cons arg args => rfl
  · rw [if_neg hr, if_neg hr]
    rfl

theorem runLine_eq_perform (session : Session σ κ ω) (shell : Shell σ κ ω) (line : Bytes) :
    session.runLine shell line = session.perform shell (session.action shell.store line) := by
  unfold runLine action
  cases session.parse shell.store line with
  | error cause => rfl
  | ok command =>
    by_cases h : command.isEmpty
    · simp only [h, ↓reduceIte, Action.ofCommand, perform]
    · simp only [h, Bool.false_eq_true, ↓reduceIte, runCommand_eq_perform session shell h]

/-! ## Lines that the shell handles itself -/

theorem action_eq_iff {session : Session σ κ ω} {store : σ} {line : Bytes} {asked : Action}
    (hn : asked ≠ .nothing) (hl : ∀ command, asked ≠ .launch command)
    (hr : ∀ cause, asked ≠ .refuse cause) :
    session.action store line = asked ↔ ∃ command, session.parse store line = .ok command ∧
      command.redirections = [] ∧ Action.ofTexts? command.texts = some asked := by
  constructor
  · intro h
    unfold action at h
    split at h
    · exact absurd h.symm (hr _)
    · rename_i command hp
      subst h
      rcases Action.ofCommand_cases command with h | h | h
      · exact absurd h hn
      · exact absurd h (hl command)
      · exact ⟨command, hp, h⟩
  · rintro ⟨command, hp, hr, ht⟩
    unfold action
    rw [hp]
    exact Action.ofCommand_eq hr ht

theorem action_eq_run_iff {session : Session σ κ ω} {store : σ} {line : Bytes}
    {command : Standard} {args : List Bytes} :
    session.action store line = .run command args ↔ ∃ parsed,
      session.parse store line = .ok parsed ∧ parsed.redirections = [] ∧
        parsed.texts = command.name :: args := by
  refine (action_eq_iff ?_ ?_ ?_).trans ?_
  · exact nofun
  · exact nofun
  · exact nofun
  · simp only [Action.ofTexts?_eq_run_iff]

theorem action_eq_assign_iff {session : Session σ κ ω} {store : σ} {line name value : Bytes} :
    session.action store line = .assign name value ↔ ∃ parsed word,
      session.parse store line = .ok parsed ∧ parsed.redirections = [] ∧ parsed.texts = [word] ∧
        Standard.ofName? word = none ∧ Registry.assignment? word = some (name, value) := by
  refine (action_eq_iff ?_ ?_ ?_).trans ?_
  · exact nofun
  · exact nofun
  · exact nofun
  · simp only [Action.ofTexts?_eq_assign_iff]
    constructor
    · rintro ⟨parsed, hp, hr, word, hw⟩
      exact ⟨parsed, word, hp, hr, hw⟩
    · rintro ⟨parsed, word, hp, hr, hw⟩
      exact ⟨parsed, hp, hr, word, hw⟩

end Session

end LineShell
