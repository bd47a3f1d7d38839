import LineShell.Proofs.Command.Roles
import LineShell.Proofs.Session.Effect
import LineShell.Store.Table

/-!
# Values do not change the structure of a line

Which tokens of a line are words and which redirect is settled before any of them is expanded.
Whether a line parses is therefore the same under all variables (`ofTokens?_error_or_reads`), and
the commands that it gives have one shape, whatever the values hold. A line that redirects is
launched under all variables, and never handled inside the shell (`parse_sameShape`).
-/

namespace LineShell

variable {σ σ₁ σ₂ κ ω : Type}

namespace Command

/-- Commands with as many words, and with redirections of the same streams in the same order. -/
structure SameShape (first second : Command) : Prop where
  words : first.words.length = second.words.length
  streams : first.redirections.map (·.stream) = second.redirections.map (·.stream)

section
variable {limits : ExpansionLimits} {lookup : Bytes → Option Bytes} {tokens : List Bytes}
  {command : Command}

/-! ## Commands that are read off the same tokens -/

namespace Reads

theorem length_words (h : Reads limits lookup tokens command) :
    command.words.length = (positions tokens .word).length :=
  h.words.length_eq.symm

theorem length_redirections (h : Reads limits lookup tokens command) :
    command.redirections.length = (positions tokens .operator).length :=
  h.redirections.length_eq.symm

/-- The streams are read off the tokens before expansion. -/
theorem streams (h : Reads limits lookup tokens command) :
    (command.redirections.map (·.stream)).map some =
      (positions tokens .operator).map (fun i => tokens[i]?.bind Stream.ofOperator?) := by
  have hr := h.redirections
  generalize command.redirections = redirections, positions tokens .operator = operators at hr ⊢
  induction hr with
  | nil => rfl
  | @cons i redirection _ _ hr _ ih =>
    have hs : Stream.ofOperator? redirection.stream.operator = some redirection.stream :=
      Stream.ofOperator?_eq_some_iff.2 rfl
    rw [List.map_cons, List.map_cons, List.map_cons, ih, hr.1, Option.bind_some, hs]

theorem sameShape {lookup' : Bytes → Option Bytes} {command' : Command}
    (h : Reads limits lookup tokens command) (h' : Reads limits lookup' tokens command') :
    command.SameShape command' where
  words := h.length_words.trans h'.length_words.symm
  streams := (List.map_inj_right fun _ _ => Option.some.inj).1 (h.streams.trans h'.streams.symm)

end Reads

theorem ofTokens?_eq_error (h : ¬ limits.reservable) (ht : tokens ≠ [])
    (lookup : Bytes → Option Bytes) :
    ofTokens? limits lookup tokens = .error (.expansion .outOfMemory) := by
  have he (token : Bytes) : limits.expand lookup token = .error .outOfMemory := by
    unfold ExpansionLimits.expand
    rw [if_neg h]
  unfold ofTokens?
  cases tokens using Clause.ofTokens.fun_cases with
  | case1 => exact absurd rfl ht
  | case2 token =>
    rw [Clause.ofTokens, ofClauses?, word?, he]
    rfl
  | case3 token next rest stream hs =>
    rw [Clause.ofTokens, hs]
    dsimp only
    rw [ofClauses?, redirection?, he]
    rfl
  | case4 token next rest hs =>
    rw [Clause.ofTokens, hs]
    dsimp only
    rw [ofClauses?, word?, he]
    rfl

/-- Whether tokens give a command does not depend on the variables. -/
theorem ofTokens?_error_or_reads (limits : ExpansionLimits) (tokens : List Bytes) :
    (∀ lookup, ofTokens? limits lookup tokens = .error (.expansion .outOfMemory)) ∨
      ∀ lookup, ∃ command, ofTokens? limits lookup tokens = .ok command ∧
        Reads limits lookup tokens command := by
  by_cases h : limits.reservable
  · exact .inr fun lookup =>
      ⟨_, ofClauses?_eq_ok h (Clause.ofTokens tokens), reads_ofTokens h lookup tokens⟩
  · by_cases ht : tokens = []
    · subst ht
      exact .inr fun lookup => ⟨{}, rfl, .nil, .nil⟩
    · exact .inl (ofTokens?_eq_error h ht)

end

end Command

/-! ## Lines that redirect -/

variable [Store σ] [Store σ₁] [Store σ₂]

namespace Session

theorem handle_of_redirected {session : Session σ κ ω} {command : Command}
    (shell : Shell σ κ ω) (h : command.redirections ≠ []) :
    session.handle shell command = (none, shell.toScene) := by
  unfold handle
  rw [if_neg (by rwa [List.isEmpty_iff])]

theorem action_of_redirected {session : Session σ κ ω} {store : σ} {line : Bytes}
    {command : Command} (hp : session.parse store line = .ok command) (hw : command.words ≠ [])
    (hr : command.redirections ≠ []) : session.action store line = .launch command := by
  unfold action Action.ofCommand
  rw [hp]
  dsimp only
  rw [if_neg (by rwa [Command.isEmpty, List.isEmpty_iff]), if_neg (by rwa [List.isEmpty_iff])]

/-- The line is not handled by the built-ins, and all that it does is to launch the command, which
is its only launch. -/
structure Launches (session : Session σ κ ω) (shell : Shell σ (Recorded κ) ω) (line : Bytes)
    (command : Command) : Prop where
  unhandled : session.recording.handle shell command = (none, shell.toScene)
  turn : session.recording.runLine shell line =
    let reply := session.recording.host.launch shell.system shell.dir command
      (Store.view shell.store)
    (shell.receive reply).conclude reply.status
  calls : (session.recording.runLine shell line).2.system.calls = shell.system.calls ++ [command]

theorem launches_of_redirected {session : Session σ κ ω} {shell : Shell σ (Recorded κ) ω}
    {line : Bytes} {command : Command} (hp : session.parse shell.store line = .ok command)
    (hw : command.words ≠ []) (hr : command.redirections ≠ []) :
    session.Launches shell line command := by
  have ha : session.recording.action shell.store line = .launch command :=
    action_of_redirected hp hw hr
  have ht := session.recording.runLine_eq_perform shell line
  rw [ha] at ht
  refine ⟨handle_of_redirected shell hr, ht, ?_⟩
  rw [ht, perform_calls]
  rfl

/-- **Values cannot inject structure.** Under any variables a line is refused, or it gives commands
of one shape, whose words and targets are the expansions of the same tokens. If the line has words
and redirects, each of the two shells launches its command and does nothing else, whatever the
words expand to. -/
theorem parse_sameShape (host : Host κ ω) (config : Config) (line : Bytes)
    (first : Shell σ₁ (Recorded κ) ω) (second : Shell σ₂ (Recorded κ) ω) :
    let tokens := tokenize config.maxTokens line
    let session₁ : Session σ₁ κ ω := ⟨host, config⟩
    let session₂ : Session σ₂ κ ω := ⟨host, config⟩
    (∃ cause, session₁.parse first.store line = .error cause ∧
        session₂.parse second.store line = .error cause) ∨
      ∃ command₁ command₂, session₁.parse first.store line = .ok command₁ ∧
        session₂.parse second.store line = .ok command₂ ∧ command₁.SameShape command₂ ∧
        Command.Reads session₁.limits (Store.get first.store) tokens command₁ ∧
        Command.Reads session₂.limits (Store.get second.store) tokens command₂ ∧
        (positions tokens .word ≠ [] → positions tokens .operator ≠ [] →
          session₁.Launches first line command₁ ∧ session₂.Launches second line command₂) := by
  intro tokens session₁ session₂
  rcases Command.ofTokens?_error_or_reads session₁.limits tokens with he | hr
  · exact .inl ⟨_, he _, he _⟩
  · obtain ⟨command₁, h₁, hr₁⟩ := hr (Store.get first.store)
    obtain ⟨command₂, h₂, hr₂⟩ := hr (Store.get second.store)
    refine .inr ⟨command₁, command₂, h₁, h₂, hr₁.sameShape hr₂, hr₁, hr₂, fun hw ho => ?_⟩
    rw [← List.length_pos_iff] at hw ho
    constructor
    · refine launches_of_redirected h₁ ?_ ?_
      · rwa [← List.length_pos_iff, hr₁.length_words]
      · rwa [← List.length_pos_iff, hr₁.length_redirections]
    · refine launches_of_redirected h₂ ?_ ?_
      · rwa [← List.length_pos_iff, hr₂.length_words]
      · rwa [← List.length_pos_iff, hr₂.length_redirections]

/-- A word that becomes the name of a built-in command or an assignment, and a target that becomes
an operator between words or nothing at all. -/
theorem parse_sameShape_builtin :
    let host : Host Unit Unit := .idle
    let store := Table.empty.put (bytes "V") (bytes "exit")
    let first : Shell Table (Recorded Unit) Unit :=
      ⟨⟨store.put (bytes "W") (bytes "a > b"), (), .ofLimit none, .ofLimit none⟩, ⟨(), []⟩, 0⟩
    let second : Shell Table (Recorded Unit) Unit :=
      ⟨⟨store.put (bytes "V") (bytes "W=1"), (), .ofLimit none, .ofLimit none⟩, ⟨(), []⟩, 0⟩
    let line := bytes "$V > $W"
    ∃ command₁ command₂, command₁.SameShape command₂ ∧
      (Session.mk host {}).Launches first line command₁ ∧
        (Session.mk host {}).Launches second line command₂ := by
  intro host store first second line
  rcases parse_sameShape host {} line first second with
    ⟨cause, h, _⟩ | ⟨command₁, command₂, _, _, hs, _, _, hl⟩
  · have hp : (Session.mk host {}).parse first.store line = .ok _ :=
      Command.ofClauses?_eq_ok (by decide) _
    rw [hp] at h
    cases h
  · obtain ⟨h₁, h₂⟩ := hl (by decide) (by decide)
    exact ⟨command₁, command₂, hs, h₁, h₂⟩

end Session

end LineShell
