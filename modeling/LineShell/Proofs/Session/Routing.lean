import LineShell.Host.Prepared
import LineShell.Proofs.Session.Deed
import LineShell.Proofs.Session.Effect
import LineShell.Store.Table

/-!
# Who runs a line

The shell runs a command itself if it has no redirection and its words are for the shell
(`RunsInside`), and leaves every other command to the host. `Session.Delegates` says what that
means: one launch, of exactly this command, and nothing done by the shell. A line without words
comes to nothing, and no line launches more than one command (`runLine_routes`).
-/

namespace LineShell

variable {σ κ ω : Type}

/-- The words are for the shell itself: the first names a built-in command, or there is only one
word, and it has an equals sign that is not its first byte. -/
def RunsInside (texts : List Bytes) : Prop :=
  (∃ command : Standard, texts.head? = some command.name) ∨
    ∃ word, texts = [word] ∧ Bytes.equals ∈ word ∧ word.head? ≠ some Bytes.equals

/-! ## Words that are for the shell -/

theorem Registry.assignment?_eq_none_iff {word : Bytes} :
    assignment? word = none ↔ ¬ (Bytes.equals ∈ word ∧ word.head? ≠ some Bytes.equals) := by
  unfold assignment?
  cases hc : cutAt Bytes.equals word with
  | none => simp [cutAt_eq_none_iff.1 hc]
  | some cut =>
    obtain ⟨name, value⟩ := cut
    obtain ⟨rfl, hn⟩ := cutAt_eq_some hc
    rw [Option.filter_some]
    cases name with
    | nil => simp
    | cons b name =>
      rw [List.mem_cons, not_or] at hn
      simp [Ne.symm hn.1]

theorem Command.isEmpty_iff (command : Command) : command.isEmpty ↔ command.words = [] :=
  List.isEmpty_iff

namespace Action

theorem ofTexts?_eq_none_iff {texts : List Bytes} :
    ofTexts? texts = none ↔ ¬ RunsInside texts := by
  cases texts with
  | nil => simp [ofTexts?, RunsInside]
  | cons name args =>
    unfold ofTexts? RunsInside
    rw [List.head?_cons]
    dsimp only
    cases hn : Standard.ofName? name with
    | some command =>
      rw [Standard.ofName?_eq_some_iff.1 hn]
      exact iff_of_false (Option.some_ne_none _) fun h => h (.inl ⟨command, rfl⟩)
    | none =>
      have hc : ¬ ∃ command : Standard, some name = some command.name := by
        rintro ⟨command, h⟩
        rw [Standard.ofName?_eq_some_iff.2 (Option.some.inj h)] at hn
        cases hn
      rw [or_iff_right hc]
      cases args with
      | nil =>
        have hw : (∃ word, [name] = [word] ∧ Bytes.equals ∈ word ∧
            word.head? ≠ some Bytes.equals) ↔
            Bytes.equals ∈ name ∧ name.head? ≠ some Bytes.equals := by simp
        rw [hw, ← Registry.assignment?_eq_none_iff]
        cases Registry.assignment? name with
        | none => exact iff_of_true rfl rfl
        | some cut => exact iff_of_false (Option.some_ne_none _) (Option.some_ne_none _)
      | cons arg args => simp

theorem launches_of_ofTexts? {texts : List Bytes} {action : Action}
    (h : ofTexts? texts = some action) : action.launches = [] := by
  unfold ofTexts? at h
  split at h
  · cases h
  · split at h <;> cases h <;> rfl

variable {command : Command}

theorem ofCommand_of_words_nil (hw : command.words = []) : ofCommand command = .nothing := by
  unfold ofCommand
  rw [if_pos (command.isEmpty_iff.2 hw)]

theorem ofCommand_of_outside (hw : command.words ≠ [])
    (h : command.redirections ≠ [] ∨ ¬ RunsInside command.texts) :
    ofCommand command = .launch command := by
  unfold ofCommand
  rw [if_neg (mt command.isEmpty_iff.1 hw)]
  split
  · rename_i hr
    have ht := h.resolve_left fun hne => hne (List.isEmpty_iff.1 hr)
    rw [ofTexts?_eq_none_iff.2 ht]
    rfl
  · rfl

theorem launches_of_inside (hr : command.redirections = []) (h : RunsInside command.texts) :
    (ofCommand command).launches = [] := by
  cases ht : ofTexts? command.texts with
  | none => exact absurd h (ofTexts?_eq_none_iff.1 ht)
  | some action =>
    rw [ofCommand_eq hr ht]
    exact launches_of_ofTexts? ht

theorem length_launches (action : Action) : action.launches.length ≤ 1 := by
  cases action <;> simp [launches]

end Action

/-! ## Lines -/

variable [Store σ]

namespace Session

/-- The turn of the line consists of one launch, of this command. The shell changes no variable,
stays in its directory, adds nothing to what the children print, and ends the session only if the
answer says so. -/
structure Delegates (session : Session σ κ ω) (shell : Shell σ (Recorded κ) ω)
    (command : Command) (turn : LineOutcome × Shell σ (Recorded κ) ω) : Prop where
  calls : turn.2.system.calls = shell.system.calls ++ [command]
  store : turn.2.store = shell.store
  dir : turn.2.dir = shell.dir
  out : turn.2.out = shell.out.write
    (session.host.launch shell.system.base shell.dir command (Store.view shell.store)).out
  outcome : turn.1 = .ofStatus
    (session.host.launch shell.system.base shell.dir command (Store.view shell.store)).status

theorem delegates_launch (session : Session σ κ ω) (shell : Shell σ (Recorded κ) ω)
    (command : Command) :
    session.Delegates shell command (session.recording.perform shell (.launch command)) := by
  let reply := session.recording.host.launch shell.system shell.dir command
    (Store.view shell.store)
  obtain ⟨err, status, hc⟩ := (shell.receive reply).exists_conclude_eq reply.status
  have hp : (session.recording.perform shell (.launch command)).2 =
      { shell.receive reply with err, status } := hc
  refine ⟨session.perform_calls shell (.launch command), ?_, ?_, ?_, ?_⟩
  · rw [hp]
    rfl
  · rw [hp]
    rfl
  · rw [hp]
    rfl
  · exact congrArg Prod.fst ((shell.receive reply).conclude_eq_leave reply.status)

/-- **Who runs a line.** A line without words comes to nothing, even if it redirects. A command with
words is left to the host if it redirects or is not for the shell; otherwise the system is left
alone. No line launches more than one command. -/
theorem runLine_routes (session : Session σ κ ω) (shell : Shell σ (Recorded κ) ω)
    (line : Bytes) :
    let turn := session.recording.runLine shell line
    (∀ command, session.parse shell.store line = .ok command →
      (command.words = [] → turn = (.proceed, shell)) ∧
      (command.words ≠ [] → command.redirections ≠ [] ∨ ¬ RunsInside command.texts →
        session.Delegates shell command turn) ∧
      (command.redirections = [] → RunsInside command.texts → turn.2.system = shell.system)) ∧
    ∃ calls, turn.2.system.calls = shell.system.calls ++ calls ∧ calls.length ≤ 1 := by
  intro turn
  have ht : turn = session.recording.perform shell (session.recording.action shell.store line) :=
    session.recording.runLine_eq_perform shell line
  refine ⟨fun command hp => ?_, ?_⟩
  · have ha : session.recording.action shell.store line = .ofCommand command := by
      have hp : session.recording.parse shell.store line = .ok command := hp
      unfold action
      rw [hp]
    rw [ha] at ht
    refine ⟨fun hw => ?_, fun hw ho => ?_, fun hr hi => ?_⟩
    · rw [ht, Action.ofCommand_of_words_nil hw]
      rfl
    · rw [ht, Action.ofCommand_of_outside hw ho]
      exact session.delegates_launch shell command
    · rw [ht]
      rcases session.recording.perform_system shell (.ofCommand command) with
        ⟨_, hs⟩ | ⟨launched, hl, _⟩
      · exact hs
      · have hn := Action.launches_of_inside hr hi
        rw [hl] at hn
        cases hn
  · rw [ht]
    exact ⟨_, session.perform_calls shell _, Action.length_launches _⟩

/-- A built-in name with a redirection and an operator in last place, which ends the session because
the host says so; and a word that becomes an assignment. -/
theorem runLine_routes_exit :
    let host : Host (Prepared Unit) Unit := Host.idle.prepared
    let session : Session Table (Prepared Unit) Unit := ⟨host, {}⟩
    let shell : Shell Table (Recorded (Prepared Unit)) Unit :=
      ⟨⟨Table.empty.put (bytes "V") (bytes "A=1 >"), (), .ofLimit none, .ofLimit none⟩,
        ⟨⟨(), [.ok .exit], []⟩, []⟩, 7⟩
    let command : Command :=
      ⟨[⟨bytes "exit", true⟩, ⟨bytes "<", true⟩], [⟨.error, bytes "A=1 >"⟩]⟩
    let assignment : Command := ⟨[⟨bytes "A=1 >", false⟩], []⟩
    (session.parse shell.store (bytes "exit 2> $V <") = .ok command ∧ command.words ≠ [] ∧
      (command.redirections ≠ [] ∨ ¬ RunsInside command.texts)) ∧
    session.Delegates shell command (session.recording.runLine shell (bytes "exit 2> $V <")) ∧
    (session.recording.runLine shell (bytes "exit 2> $V <")).1 = .exit ∧
    (session.parse shell.store (bytes "$V") = .ok assignment ∧ assignment.redirections = [] ∧
      RunsInside assignment.texts) ∧
    (session.recording.runLine shell (bytes "$V")).2.system = shell.system := by
  intro host session shell command assignment
  have hp : session.parse shell.store (bytes "exit 2> $V <") = .ok command := by decide +kernel
  have ha : session.parse shell.store (bytes "$V") = .ok assignment := by decide +kernel
  have hi : RunsInside assignment.texts := .inr ⟨_, rfl, by decide, by decide⟩
  have hd := ((session.runLine_routes shell _).1 command hp).2.1 (by decide) (.inl (by decide))
  refine ⟨⟨hp, by decide, .inl (by decide)⟩, hd, hd.outcome, ⟨ha, rfl, hi⟩, ?_⟩
  exact ((session.runLine_routes shell _).1 assignment ha).2.2 rfl hi

end Session

end LineShell
