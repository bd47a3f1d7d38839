import LineShell.Proofs.Command.References
import LineShell.Proofs.Session.Turns
import LineShell.Proofs.Store.Lawful

/-!
# Variables that a session does not name

Two shells agree on the visible variables if nothing else tells them apart, whatever their stores
are (`Shell.Agree`). A line that refers to visible variables only does the same in both, as long
as HOME is visible, and leaves them in agreement (`runLine_agree`): no other variable is looked
at, and setting one gives both stores the same value. Hence a variable that no line refers to
makes no difference to a session.
-/

namespace LineShell

/-- Whether a token kept of the line refers to the variable. -/
def Config.Refers (config : Config) (line name : Bytes) : Prop :=
  ∃ token ∈ tokenize config.maxTokens line,
    .reference name ∈ Piece.ofText config.varNameMax token

instance (config : Config) (line name : Bytes) : Decidable (config.Refers line name) :=
  List.decidableBEx _ _

variable {σ₁ σ₂ κ ω : Type} [Store σ₁] [Store σ₂]

/-- Scenes that differ at most in variables that are not visible. -/
structure Scene.Agree (visible : Bytes → Prop) (first : Scene σ₁ ω) (second : Scene σ₂ ω) :
    Prop where
  get : ∀ name, visible name → Store.get first.store name = Store.get second.store name
  dir : first.dir = second.dir
  out : first.out = second.out
  err : first.err = second.err

/-- Shells that differ at most in variables that are not visible. -/
structure Shell.Agree (visible : Bytes → Prop) (first : Shell σ₁ κ ω) (second : Shell σ₂ κ ω) :
    Prop extends Scene.Agree visible first.toScene second.toScene where
  system : first.system = second.system
  status : first.status = second.status

variable {visible : Bytes → Prop}

/-! ## What a line asks for -/

theorem Session.action_congr (host : Host κ ω) {config : Config} {line : Bytes} {first : σ₁}
    {second : σ₂}
    (h : ∀ name, config.Refers line name → Store.get first name = Store.get second name) :
    Session.action ⟨host, config⟩ first line = Session.action ⟨host, config⟩ second line := by
  have hp : Session.parse ⟨host, config⟩ first line = Session.parse ⟨host, config⟩ second line :=
    Command.ofTokens?_congr fun token ht =>
      ExpansionLimits.expand_congr _ fun name hn => h name ⟨token, ht, hn⟩
  unfold action
  rw [hp]

/-! ## Scenes -/

namespace Scene.Agree

variable {first : Scene σ₁ ω} {second : Scene σ₂ ω}

theorem print (h : first.Agree visible second) (data : Bytes) :
    Alike (Scene.Agree visible) (first.print data) (second.print data) := by
  unfold Scene.print
  rw [h.out]
  exact ⟨rfl, h.get, h.dir, rfl, h.err⟩

theorem report (h : first.Agree visible second) (message : Text) :
    (first.report message).Agree visible (second.report message) := by
  unfold Scene.report
  rw [h.err]
  exact ⟨h.get, h.dir, h.out, rfl⟩

theorem assign [LawfulStore σ₁] [LawfulStore σ₂] (h : first.Agree visible second)
    (name value : Bytes) : (first.assign name value).Agree visible (second.assign name value) := by
  unfold Scene.assign
  split
  · exact h
  · rcases Store.set_agree name value h.get with
      ⟨cause, h₁, h₂⟩ | ⟨first', second', h₁, h₂, hg⟩
    · rw [h₁, h₂]
      exact h.report _
    · rw [h₁, h₂]
      exact ⟨hg, h.dir, h.out, h.err⟩

end Scene.Agree

/-! ## One turn -/

theorem Standard.run_agree [LawfulStore σ₁] [LawfulStore σ₂] (command : Standard)
    (config : Config) (host : Host κ ω) (system : κ) (args : List Bytes) {first : Scene σ₁ ω}
    {second : Scene σ₂ ω} (hv : visible Builtin.homeName) (h : first.Agree visible second) :
    Alike (Scene.Agree visible) ((command.builtin config).run host system args first)
      ((command.builtin config).run host system args second) := by
  cases command with
  | exit =>
    dsimp only [builtin, Builtin.exit]
    rw [h.out]
    exact ⟨rfl, h.get, h.dir, rfl, h.err⟩
  | changeDir =>
    dsimp only [builtin, Builtin.changeDir]
    rw [h.get _ hv, h.dir]
    split
    · exact ⟨rfl, h⟩
    · split
      · exact ⟨rfl, h.get, rfl, h.out, h.err⟩
      · exact ⟨rfl, h⟩
  | printDir =>
    dsimp only [builtin, Builtin.printDir]
    rw [h.dir]
    split
    · exact h.print _
    · exact ⟨rfl, h⟩
  | echo => exact h.print _
  | exportVar =>
    dsimp only [builtin, Builtin.exportVar]
    split
    · exact ⟨rfl, h⟩
    · rename_i name value _
      split
      · exact ⟨rfl, h⟩
      · rcases Store.set_agree name value h.get with
          ⟨cause, h₁, h₂⟩ | ⟨first', second', h₁, h₂, hg⟩
        · rw [h₁, h₂]
          exact ⟨rfl, h⟩
        · rw [h₁, h₂]
          exact ⟨rfl, hg, h.dir, h.out, h.err⟩

namespace Shell.Agree

variable {first : Shell σ₁ κ ω} {second : Shell σ₂ κ ω}

theorem fail (h : first.Agree visible second) (message : Text) :
    (first.fail message).Agree visible (second.fail message) :=
  ⟨h.toAgree.report message, h.system, rfl⟩

theorem conclude (h : first.Agree visible second) (status : Status) :
    Alike (Shell.Agree visible) (first.conclude status) (second.conclude status) := by
  cases status with
  | ok outcome =>
    cases outcome with
    | code status => exact ⟨rfl, h.toAgree, h.system, rfl⟩
    | unchanged => exact ⟨rfl, h⟩
    | exit => exact ⟨rfl, h⟩
  | error cause =>
    unfold Shell.conclude
    dsimp only
    split
    · exact ⟨rfl, h⟩
    · exact ⟨rfl, h.fail _⟩

theorem receive (h : first.Agree visible second) (reply : Reply κ) :
    (first.receive reply).Agree visible (second.receive reply) := by
  unfold Shell.receive
  rw [h.out, h.err]
  exact ⟨⟨h.get, h.dir, rfl, rfl⟩, rfl, h.status⟩

end Shell.Agree

namespace Session

variable {host : Host κ ω} {config : Config} {first : Shell σ₁ κ ω} {second : Shell σ₂ κ ω}

theorem perform_agree [LawfulStore σ₁] [LawfulStore σ₂]
    (hl : ∀ command, host.launch second.system second.dir command (Store.view first.store) =
      host.launch second.system second.dir command (Store.view second.store))
    (hv : visible Builtin.homeName) (h : first.Agree visible second) (action : Action) :
    Alike (Shell.Agree visible) (Session.perform ⟨host, config⟩ first action)
      (Session.perform ⟨host, config⟩ second action) := by
  cases action with
  | refuse cause => exact ⟨rfl, h.fail _⟩
  | nothing => exact ⟨rfl, h⟩
  | run command args =>
    obtain ⟨hs, ha⟩ := command.run_agree config host second.system args hv h.toAgree
    rw [perform_run, perform_run, h.system]
    dsimp only
    rw [hs]
    have he : Shell.Agree visible ⟨_, second.system, first.status⟩
        ⟨_, second.system, second.status⟩ := ⟨ha, rfl, h.status⟩
    exact he.conclude _
  | assign name value => exact ⟨rfl, h.toAgree.assign name value, h.system, h.status⟩
  | launch command =>
    dsimp only [perform]
    rw [h.system, h.dir, hl command]
    exact (h.receive _).conclude _

theorem runLine_agree [LawfulStore σ₁] [LawfulStore σ₂] {line : Bytes} (hb : host.Blind)
    (hv : visible Builtin.homeName) (hl : ∀ name, config.Refers line name → visible name)
    (h : first.Agree visible second) :
    Alike (Shell.Agree visible) (Session.runLine ⟨host, config⟩ first line)
      (Session.runLine ⟨host, config⟩ second line) := by
  have ha := action_congr host fun name hn => h.get name (hl name hn)
  rw [runLine_eq_perform, runLine_eq_perform, ha]
  exact perform_agree (fun command => hb _ _ command _ _) hv h _

/-- **A variable that is not named makes no difference.** In two sessions that differ in one
variable, over a host that does not look at the variables, every line has the same outcome, status,
output, working directory and launches, if no line refers to the variable and it is not HOME. The
lines may set it: the other variables stay the same in both. -/
theorem turns_agree [LawfulStore σ₁] [LawfulStore σ₂] {name : Bytes} {lines : List Bytes}
    {first : Shell σ₁ (Recorded κ) ω} {second : Shell σ₂ (Recorded κ) ω} (hb : host.Blind)
    (hn : name ≠ Builtin.homeName) (hl : ∀ line ∈ lines, ¬ config.Refers line name)
    (h : first.Agree (· ≠ name) second) :
    List.Forall₂ (Alike (Shell.Agree (· ≠ name)))
      ((Session.mk host config).recording.turns first lines)
      ((Session.mk host config).recording.turns second lines) := by
  refine forall₂_turns (fun line hm first second h => ?_) h
  refine runLine_agree hb.recording hn.symm (fun n hr he => ?_) h
  exact hl line hm (he ▸ hr)

/-- The variable is set, prefixes another name, and occurs in a value that is not read again. -/
theorem turns_agree_set :
    let host : Host (Prepared Unit) Unit := Host.idle.prepared
    let system : Recorded (Prepared Unit) := ⟨⟨(), [.ok (.code 2)], []⟩, []⟩
    let store : Table := Table.empty.put (bytes "B") (bytes "$A")
    let first : Shell Table (Recorded (Prepared Unit)) Unit :=
      ⟨⟨store, (), .ofLimit none, .ofLimit none⟩, system, 0⟩
    let second : Shell Table (Recorded (Prepared Unit)) Unit :=
      ⟨⟨store.put (bytes "A") (bytes "1"), (), .ofLimit none, .ofLimit none⟩, system, 0⟩
    let lines := [bytes "A=2", bytes "ls $B $AB", bytes "exit"]
    (host.Blind ∧ bytes "A" ≠ Builtin.homeName ∧
      (∀ line ∈ lines, ¬ ({} : Config).Refers line (bytes "A")) ∧
      first.Agree (· ≠ bytes "A") second) ∧
    List.Forall₂ (Alike (Shell.Agree (· ≠ bytes "A")))
      ((Session.mk host {}).recording.turns first lines)
      ((Session.mk host {}).recording.turns second lines) := by
  intro host system store first second lines
  have hb : host.Blind := Host.blind_prepared _
  have hn : bytes "A" ≠ Builtin.homeName := by decide
  have hl : ∀ line ∈ lines, ¬ ({} : Config).Refers line (bytes "A") := by decide +kernel
  have h : first.Agree (· ≠ bytes "A") second := by
    refine ⟨⟨fun n hne => ?_, rfl, rfl, rfl⟩, rfl, rfl⟩
    have hg := store.get_put (bytes "A") (bytes "1") n
    rw [if_neg hne] at hg
    exact hg.symm
  exact ⟨⟨hb, hn, hl, h⟩, turns_agree hb hn hl h⟩

end Session

end LineShell
