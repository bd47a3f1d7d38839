import LineShell.Proofs.Session.Effect
import LineShell.Proofs.Session.Spacing
import LineShell.Proofs.Sink
import LineShell.Store.Table

/-!
# What echo prints

If all tokens of a line are words and the first is `echo`, the line prints the expansions of the
others, with a single space between neighbours (`runLine_of_echo`). Without references this is a
normal form: the tokens are `Plain` after expansion, even if they have been cut off, and plain
tokens are printed as they are (`runLine_echo`).
-/

namespace LineShell

variable {σ κ ω : Type}

/-- Expansion leaves the tokens as they are, and none of them redirects. -/
structure Plain (limits : ExpansionLimits) (tokens : List Bytes) : Prop where
  literal : ∀ token ∈ tokens, Literal limits token
  not_operator : ∀ token ∈ tokens.dropLast, ¬ isOperator token

/-- The shell after it has printed the text as a line of its own. -/
def Shell.echoed (shell : Shell σ κ ω) (text : Bytes) : Shell σ κ ω :=
  { shell with out := ⟨shell.out.accepted ++ (text ++ [Bytes.newline]), none⟩, status := 0 }

/-! ## Tokens that are cut off -/

theorem isOperator_length {token : Bytes} (h : isOperator token) : token.length ≤ 2 := by
  obtain ⟨stream, hs⟩ := isOperator_iff.1 h
  rw [Stream.ofOperator?_eq_some_iff.1 hs]
  cases stream <;> decide

/-- A token does not become an operator when it is cut off. -/
theorem isOperator_of_take {token : Bytes} {n : Nat} (hn : 3 ≤ n) (h : isOperator (token.take n)) :
    isOperator token := by
  have hl := isOperator_length h
  rw [List.length_take] at hl
  rwa [List.take_of_length_le (by omega)] at h

section
variable {limits : ExpansionLimits} {token : Bytes}

theorem ExpansionLimits.result_of_noReference (lookup : Bytes → Option Bytes)
    (h : ∀ b, [Bytes.dollar, b] <:+: token → ¬ Bytes.isNameByte b) :
    limits.result lookup token = token.take limits.capacity := by
  unfold result
  rw [substitute_of_noReference h]

theorem Literal.of_take (hn : token ≠ []) (hs : Bytes.space ∉ token)
    (h : ∀ b, [Bytes.dollar, b] <:+: token → ¬ Bytes.isNameByte b) (hc : 1 ≤ limits.capacity) :
    Literal limits (token.take limits.capacity) where
  ne_nil := by
    rw [Ne, List.take_eq_nil_iff, not_or]
    exact ⟨Nat.ne_of_gt hc, hn⟩
  space_not_mem hm := hs (List.mem_of_mem_take hm)
  noReference b hi := h b (hi.trans (List.take_prefix _ _).isInfix)
  length_le := List.length_take_le _ _

/-- Tokens without references are plain after their expansion. -/
theorem Plain.of_result {tokens : List Bytes} (lookup : Bytes → Option Bytes)
    (ht : ∀ token ∈ tokens, token ≠ [] ∧ Bytes.space ∉ token)
    (ho : ∀ token ∈ tokens.dropLast, ¬ isOperator token)
    (hr : ∀ token ∈ tokens, ∀ b, [Bytes.dollar, b] <:+: token → ¬ Bytes.isNameByte b)
    (hc : 3 ≤ limits.capacity) : Plain limits (tokens.map (limits.result lookup)) where
  literal := by
    rw [List.forall_mem_map]
    intro token hm
    rw [ExpansionLimits.result_of_noReference lookup (hr token hm)]
    exact .of_take (ht token hm).1 (ht token hm).2 (hr token hm) (by omega)
  not_operator := by
    rw [← List.map_dropLast, List.forall_mem_map]
    intro token hm h
    rw [ExpansionLimits.result_of_noReference lookup (hr token (List.mem_of_mem_dropLast hm))] at h
    exact ho token hm (isOperator_of_take hc h)

end

/-! ## Lines that consist of words -/

/-- Tokens are words if no operator comes before another token. -/
theorem Clause.ofTokens_words {tokens : List Bytes}
    (h : ∀ token ∈ tokens.dropLast, ¬ isOperator token) : ofTokens tokens = tokens.map .word := by
  induction tokens with
  | nil => rfl
  | cons token rest ih =>
    cases rest with
    | nil => rfl
    | cons next rest =>
      rw [List.dropLast_cons_cons, List.forall_mem_cons] at h
      rw [ofTokens_word h.1, ih h.2]
      rfl

section
variable (limits : ExpansionLimits) (lookup : Bytes → Option Bytes) (tokens : List Bytes)

theorem Clause.filterMap_word?_words :
    (tokens.map word).filterMap (word? limits lookup) =
      tokens.map fun token =>
        ⟨limits.result lookup token, limits.result lookup token = token⟩ := by
  rw [List.filterMap_map]
  exact congrFun List.filterMap_eq_map tokens

theorem Clause.filterMap_redirection?_words :
    (tokens.map word).filterMap (redirection? limits lookup) = [] := by
  rw [List.filterMap_map]
  exact List.filterMap_eq_nil_iff.2 fun _ _ => rfl

end

theorem Standard.literal_name (command : Standard) {limits : ExpansionLimits}
    (h : command.name.length ≤ limits.capacity) : Literal limits command.name := by
  have hd : Bytes.dollar ∉ command.name := by cases command <;> decide
  refine ⟨?_, ?_, fun b hi => absurd (hi.subset List.mem_cons_self) hd, h⟩
  · cases command <;> decide
  · cases command <;> decide

/-- A name and the words after it are the tokens of the line that is written of them. -/
theorem tokenize_cons_join {limit : Nat} {name : Bytes} {words : List Bytes}
    (hn : name ≠ [] ∧ Bytes.space ∉ name)
    (hw : ∀ word ∈ words, word ≠ [] ∧ Bytes.space ∉ word) (hl : words.length < limit) :
    tokenize limit (name ++ Bytes.space :: join Bytes.space words) = name :: words := by
  rw [tokenize_eq_take, allTokens_token hn.1 hn.2 (.inr rfl), allTokens_space,
    ← tokens_iff.1 (tokens_join hw)]
  exact List.take_of_length_le hl

namespace Session

variable [Store σ]

theorem parse_words (session : Session σ κ ω) (store : σ) {line : Bytes}
    (hc : session.limits.reservable)
    (ho : ∀ token ∈ (tokenize session.config.maxTokens line).dropLast, ¬ isOperator token) :
    ∃ command, session.parse store line = .ok command ∧ command.redirections = [] ∧
      command.texts = (tokenize session.config.maxTokens line).map
        (session.limits.result (Store.get store)) := by
  unfold parse Command.ofTokens?
  rw [Clause.ofTokens_words ho, Command.ofClauses?_eq_ok hc, Clause.filterMap_word?_words,
    Clause.filterMap_redirection?_words]
  refine ⟨_, rfl, rfl, ?_⟩
  unfold Command.texts
  rw [List.map_map]
  rfl

/-- Words of which the first names a built-in command run it on the expansions of the others. -/
theorem action_words (session : Session σ κ ω) (store : σ) (command : Standard) {line : Bytes}
    {args : List Bytes} (hc : session.limits.reservable)
    (hl : command.name.length ≤ session.config.expandCapacity)
    (ht : tokenize session.config.maxTokens line = command.name :: args)
    (ho : ∀ token ∈ (tokenize session.config.maxTokens line).dropLast, ¬ isOperator token) :
    session.action store line =
      .run command (args.map (session.limits.result (Store.get store))) := by
  obtain ⟨parsed, hp, hr, hw⟩ := session.parse_words store hc ho
  rw [ht, List.map_cons, (command.literal_name hl).result] at hw
  exact action_eq_run_iff.2 ⟨parsed, hp, hr, hw⟩

theorem perform_echo (session : Session σ κ ω) (shell : Shell σ κ ω) (args : List Bytes)
    (h : shell.out.room = none) :
    session.perform shell (.run .echo args) =
      (.proceed, shell.echoed (join Bytes.space args)) := by
  rw [perform_run]
  dsimp only [Standard.builtin, Builtin.echo, Scene.print]
  rw [if_pos (Sink.fits_of_room_none h _), Sink.write_of_room_none h]
  rfl

/-- A line of words that names `echo` prints their expansions. -/
theorem runLine_of_echo (session : Session σ κ ω) (shell : Shell σ κ ω) {line : Bytes}
    {args : List Bytes} (hc : session.limits.reservable) (hl : 4 ≤ session.config.expandCapacity)
    (ht : tokenize session.config.maxTokens line = bytes "echo" :: args)
    (ho : ∀ token ∈ (tokenize session.config.maxTokens line).dropLast, ¬ isOperator token)
    (hr : shell.out.room = none) :
    session.runLine shell line = (.proceed, shell.echoed
      (join Bytes.space (args.map (session.limits.result (Store.get shell.store))))) := by
  rw [runLine_eq_perform, session.action_words shell.store .echo hc hl ht ho]
  exact session.perform_echo shell _ hr

/-- Plain words are printed as they are. -/
theorem runLine_of_plain (session : Session σ κ ω) (shell : Shell σ κ ω) {words : List Bytes}
    (hc : session.limits.reservable) (hp : Plain session.limits (bytes "echo" :: words))
    (hm : words.length < session.config.maxTokens) (hr : shell.out.room = none) :
    session.runLine shell (bytes "echo " ++ join Bytes.space words) =
      (.proceed, shell.echoed (join Bytes.space words)) := by
  obtain ⟨hecho, hwords⟩ := List.forall_mem_cons.1 hp.literal
  have ht : tokenize session.config.maxTokens (bytes "echo " ++ join Bytes.space words) =
      bytes "echo" :: words :=
    tokenize_cons_join ⟨hecho.ne_nil, hecho.space_not_mem⟩
      (fun word hw => ⟨(hwords word hw).ne_nil, (hwords word hw).space_not_mem⟩) hm
  have he : words.map (session.limits.result (Store.get shell.store)) = words :=
    (List.map_congr_left fun word hw => (hwords word hw).result _).trans (List.map_id' words)
  have h := session.runLine_of_echo shell hc hecho.length_le ht (ht ▸ hp.not_operator) hr
  rwa [he] at h

/-- **What echo prints is a normal form.** A line whose kept tokens are `echo` and words prints the
expansions of the words with a single space between neighbours, also of the empty ones, records the
status zero and does nothing else. If no kept token has a reference in it, the text that has been
printed is printed again when it comes after `echo`, whatever the variables are then. -/
theorem runLine_echo (session : Session σ κ ω) (shell : Shell σ κ ω) {line : Bytes}
    {args : List Bytes} (hc : session.limits.reservable) (hl : 4 ≤ session.config.expandCapacity)
    (ht : tokenize session.config.maxTokens line = bytes "echo" :: args)
    (ho : ∀ token ∈ (tokenize session.config.maxTokens line).dropLast, ¬ isOperator token)
    (hr : shell.out.room = none) :
    ∃ texts,
      List.Forall₂ (fun arg text => session.limits.expand (Store.get shell.store) arg = .ok text)
        args texts ∧
      session.runLine shell line = (.proceed, shell.echoed (join Bytes.space texts)) ∧
      ((∀ token ∈ tokenize session.config.maxTokens line,
          ∀ b, [Bytes.dollar, b] <:+: token → ¬ Bytes.isNameByte b) →
        ∀ other : Shell σ κ ω, other.out.room = none →
          session.runLine other (bytes "echo " ++ join Bytes.space texts) =
            (.proceed, other.echoed (join Bytes.space texts))) := by
  let result := session.limits.result (Store.get shell.store)
  refine ⟨args.map result, ?_, session.runLine_of_echo shell hc hl ht ho hr, ?_⟩
  · rw [List.forall₂_map_right_iff]
    exact List.forall₂_same.2 fun arg _ => ExpansionLimits.expand_of_reservable hc _ arg
  · intro hn other hother
    have htokens : ∀ token ∈ tokenize session.config.maxTokens line,
        token ≠ [] ∧ Bytes.space ∉ token := fun token hm =>
      (tokens_allTokens line).isToken token (List.mem_of_mem_take hm)
    have hp : Plain session.limits ((tokenize session.config.maxTokens line).map result) :=
      .of_result _ htokens ho hn (Nat.le_of_succ_le hl)
    have hecho : Literal session.limits (bytes "echo") := Standard.echo.literal_name hl
    have he : result (bytes "echo") = bytes "echo" := hecho.result _
    rw [ht, List.map_cons, he] at hp
    refine session.runLine_of_plain other hc hp ?_ hother
    have hk : (tokenize session.config.maxTokens line).length ≤ session.config.maxTokens :=
      List.length_take_le _ _
    rwa [ht, List.length_cons, ← List.length_map result] at hk

/-- Spaces around the words, a word that is cut off after a dollar sign, and an operator that the
limit leaves in last place. -/
theorem runLine_echo_cut :
    let host : Host Unit Unit := .idle
    let session : Session Table Unit Unit := ⟨host, { expandCapacity := 4, maxTokens := 3 }⟩
    let shell : Shell Table Unit Unit := ⟨⟨Table.empty, (), .ofLimit none, .ofLimit none⟩, (), 7⟩
    let line := bytes "  echo   abc$$  2> file"
    let kept := tokenize session.config.maxTokens line
    (session.limits.reservable ∧ 4 ≤ session.config.expandCapacity ∧
      kept = [bytes "echo", bytes "abc$$", bytes "2>"] ∧
      (∀ token ∈ kept.dropLast, ¬ isOperator token) ∧ shell.out.room = none ∧
      ∀ token ∈ kept, ∀ b, [Bytes.dollar, b] <:+: token → ¬ Bytes.isNameByte b) ∧
    session.runLine shell line = (.proceed, shell.echoed (bytes "abc$ 2>")) ∧
    session.runLine shell (bytes "echo abc$ 2>") = (.proceed, shell.echoed (bytes "abc$ 2>")) := by
  intro host session shell line kept
  have hc : session.limits.reservable := by decide
  have hl : 4 ≤ session.config.expandCapacity := by decide
  have ht : kept = [bytes "echo", bytes "abc$$", bytes "2>"] := by decide
  have ho : ∀ token ∈ kept.dropLast, ¬ isOperator token := by decide
  have hlit : ∀ token ∈ kept, Literal { capacity := 5, nameMax := 1 } token := by decide
  have hn : ∀ token ∈ kept, ∀ b, [Bytes.dollar, b] <:+: token → ¬ Bytes.isNameByte b :=
    fun token hm => (hlit token hm).noReference
  obtain ⟨texts, htexts, hfirst, hagain⟩ := session.runLine_echo shell hc hl ht ho rfl
  obtain _ | ⟨hcut, _ | ⟨hlast, ⟨⟩⟩⟩ := htexts
  have hcut' : session.limits.expand (Store.get shell.store) (bytes "abc$$") =
      .ok (bytes "abc$") := by decide +kernel
  have hlast' : session.limits.expand (Store.get shell.store) (bytes "2>") = .ok (bytes "2>") := by
    decide +kernel
  cases hcut.symm.trans hcut'
  cases hlast.symm.trans hlast'
  exact ⟨⟨hc, hl, ht, ho, rfl, hn⟩, hfirst, hagain hn shell rfl⟩

end Session

end LineShell
