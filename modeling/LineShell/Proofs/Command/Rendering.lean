import LineShell.Proofs.Command.Roles
import LineShell.Proofs.Input.Lines
import LineShell.Shell
import LineShell.Store.Table
import Mathlib.Data.List.Infix

/-!
# Commands written as lines

`Arranges` puts the words and the redirections of a command in one order, and `Spaced` writes
tokens as a line with spaces between them. If no word reads as an operator and nothing is expanded
or cut off (`Literal`), parsing such a line gives the command back (`parse_spaced`), wherever its
redirections stand among its words.
-/

namespace LineShell

/-- The line has these tokens, with at least one space between neighbours and any number of spaces
before the first and after the last. -/
inductive Spaced : List Bytes → Bytes → Prop where
  | blank (n : Nat) : Spaced [] (List.replicate n Bytes.space)
  | token {token after : Bytes} {rest : List Bytes} (n : Nat) : Spaced rest after →
      (rest ≠ [] → after.head? = some Bytes.space) →
      Spaced (token :: rest) (List.replicate n Bytes.space ++ token ++ after)

/-- The clauses are these words and these redirections; both keep their order. -/
inductive Arranges : List Bytes → List Redirection → List Clause → Prop where
  | nil : Arranges [] [] []
  | word {words : List Bytes} {redirections : List Redirection} {clauses : List Clause}
      (word : Bytes) : Arranges words redirections clauses →
      Arranges (word :: words) redirections (.word word :: clauses)
  | redirect {words : List Bytes} {redirections : List Redirection} {clauses : List Clause}
      (redirection : Redirection) : Arranges words redirections clauses →
      Arranges words (redirection :: redirections)
        (.redirect redirection.stream redirection.target :: clauses)

/-- The tokens that have the role. -/
def Clause.tokens : Clause → List Bytes
  | .word token => [token]
  | .redirect stream target => [stream.operator, target]

/-- The text is a token that expansion leaves as it is: no dollar sign in it stands before a name
byte, and it fits into the capacity. -/
structure Literal (limits : ExpansionLimits) (text : Bytes) : Prop where
  ne_nil : text ≠ []
  space_not_mem : Bytes.space ∉ text
  noReference : ∀ b, [Bytes.dollar, b] <:+: text → ¬ Bytes.isNameByte b
  length_le : text.length ≤ limits.capacity

theorem literal_iff {limits : ExpansionLimits} {text : Bytes} :
    Literal limits text ↔ text ≠ [] ∧ Bytes.space ∉ text ∧
      (∀ b ∈ text, [Bytes.dollar, b] <:+: text → ¬ Bytes.isNameByte b) ∧
      text.length ≤ limits.capacity := by
  constructor
  · rintro ⟨hn, hs, hr, hl⟩
    exact ⟨hn, hs, fun b _ => hr b, hl⟩
  · rintro ⟨hn, hs, hr, hl⟩
    refine ⟨hn, hs, fun b hb => hr b ?_ hb, hl⟩
    exact hb.subset (List.mem_cons_of_mem _ List.mem_cons_self)

instance (limits : ExpansionLimits) (text : Bytes) : Decidable (Literal limits text) :=
  letI : Decidable (∀ b ∈ text, [Bytes.dollar, b] <:+: text → ¬ Bytes.isNameByte b) :=
    List.decidableBAll _ _
  decidable_of_iff' _ literal_iff

/-! ## Tokens of a line -/

/-- The tokens of a line, however many there are. -/
def allTokens (line : Bytes) : List Bytes :=
  (split Bytes.space line).filter (!·.isEmpty)

theorem tokenize_eq_take (maxTokens : Nat) (line : Bytes) :
    tokenize maxTokens line = (allTokens line).take maxTokens := rfl

theorem allTokens_space (rest : Bytes) :
    allTokens (Bytes.space :: rest) = allTokens rest := by
  have hs : split Bytes.space (Bytes.space :: rest) = [] :: split Bytes.space rest :=
    split_of_cutAt_some (cutAt_append rest List.not_mem_nil)
  unfold allTokens
  rw [hs]
  rfl

theorem allTokens_spaces (n : Nat) (rest : Bytes) :
    allTokens (List.replicate n Bytes.space ++ rest) = allTokens rest := by
  induction n with
  | zero => rfl
  | succ n ih => rw [List.replicate_succ, List.cons_append, allTokens_space, ih]

/-- A token goes on up to the next space or the end of the line. -/
theorem allTokens_token {token after : Bytes} (hn : token ≠ []) (hs : Bytes.space ∉ token)
    (ha : after = [] ∨ after.head? = some Bytes.space) :
    allTokens (token ++ after) = token :: allTokens after := by
  have hf (pieces : List Bytes) :
      (token :: pieces).filter (!·.isEmpty) = token :: pieces.filter (!·.isEmpty) :=
    List.filter_cons_of_pos (by simpa using hn)
  rcases ha with rfl | ha
  · rw [List.append_nil]
    unfold allTokens
    rw [split_of_cutAt_none (cutAt_eq_none_iff.2 hs), hf]
    rfl
  · obtain ⟨more, rfl⟩ := List.head?_eq_some_iff.1 ha
    rw [allTokens_space]
    unfold allTokens
    rw [split_of_cutAt_some (cutAt_append more hs), hf]

theorem allTokens_single {token : Bytes} (hn : token ≠ []) (hs : Bytes.space ∉ token) :
    allTokens token = [token] := by
  have h := allTokens_token hn hs (.inl rfl)
  rwa [List.append_nil] at h

theorem tokenize_single {maxTokens : Nat} {token : Bytes} (hn : token ≠ [])
    (hs : Bytes.space ∉ token) (hm : 1 ≤ maxTokens) : tokenize maxTokens token = [token] := by
  rw [tokenize_eq_take, allTokens_single hn hs, List.take_of_length_le hm]

theorem Spaced.starts {tokens : List Bytes} {line : Bytes} (h : Spaced tokens line)
    (hs : tokens ≠ [] → line.head? = some Bytes.space) :
    line = [] ∨ line.head? = some Bytes.space := by
  cases h with
  | blank n =>
    cases n with
    | zero => exact .inl rfl
    | succ n => exact .inr rfl
  | token n _ _ => exact .inr (hs (List.cons_ne_nil _ _))

theorem Spaced.pieces {tokens : List Bytes} {line : Bytes} (h : Spaced tokens line)
    (ht : ∀ token ∈ tokens, token ≠ [] ∧ Bytes.space ∉ token) : allTokens line = tokens := by
  induction h with
  | blank n =>
    have he := allTokens_spaces n []
    rw [List.append_nil] at he
    rw [he]
    rfl
  | token n hr hs ih =>
    obtain ⟨hn, hm⟩ := ht _ List.mem_cons_self
    rw [List.append_assoc, allTokens_spaces, allTokens_token hn hm (hr.starts hs),
      ih fun t hmem => ht t (List.mem_cons_of_mem _ hmem)]

/-! ## Roles of tokens -/

theorem Stream.ofOperator?_operator (stream : Stream) :
    ofOperator? stream.operator = some stream :=
  ofOperator?_eq_some_iff.2 rfl

theorem Stream.operator_isToken (stream : Stream) :
    stream.operator ≠ [] ∧ Bytes.space ∉ stream.operator := by
  cases stream <;> decide

theorem Clause.ofTokens_word {token : Bytes} (h : ¬ isOperator token) (rest : List Bytes) :
    ofTokens (token :: rest) = .word token :: ofTokens rest := by
  have hs : Stream.ofOperator? token = none := by
    rw [isOperator_iff] at h
    exact Option.eq_none_iff_forall_ne_some.2 fun stream hs => h ⟨stream, hs⟩
  cases rest with
  | nil => rfl
  | cons next rest => rw [ofTokens, hs]

theorem Clause.ofTokens_redirect (stream : Stream) (target : Bytes) (rest : List Bytes) :
    ofTokens (stream.operator :: target :: rest) = .redirect stream target :: ofTokens rest := by
  rw [ofTokens, stream.ofOperator?_operator]

/-- Words that are no operators keep their roles, and so do targets, whatever they are. -/
theorem Arranges.ofTokens {words : List Bytes} {redirections : List Redirection}
    {clauses : List Clause} (h : Arranges words redirections clauses)
    (hw : ∀ word ∈ words, ¬ isOperator word) :
    Clause.ofTokens (clauses.flatMap Clause.tokens) = clauses := by
  induction h with
  | nil => rfl
  | word word _ ih =>
    have ih := ih fun w hm => hw w (List.mem_cons_of_mem _ hm)
    have hc : Clause.tokens (.word word) = [word] := rfl
    rw [List.flatMap_cons, hc, List.singleton_append,
      Clause.ofTokens_word (hw word List.mem_cons_self), ih]
  | redirect redirection _ ih =>
    have hc : Clause.tokens (.redirect redirection.stream redirection.target) =
      [redirection.stream.operator, redirection.target] := rfl
    rw [List.flatMap_cons, hc, List.cons_append, List.singleton_append,
      Clause.ofTokens_redirect, ih hw]

theorem Arranges.mem_tokens {words : List Bytes} {redirections : List Redirection}
    {clauses : List Clause} (h : Arranges words redirections clauses) {token : Bytes}
    (ht : token ∈ clauses.flatMap Clause.tokens) :
    token ∈ words ∨ ∃ redirection ∈ redirections,
      token = redirection.stream.operator ∨ token = redirection.target := by
  induction h with
  | nil => cases ht
  | word word _ ih =>
    rw [List.flatMap_cons] at ht
    rcases List.mem_append.1 ht with ht | ht
    · exact .inl (List.mem_singleton.1 ht ▸ List.mem_cons_self)
    · exact (ih ht).imp_left (List.mem_cons_of_mem word)
  | redirect redirection _ ih =>
    rw [List.flatMap_cons] at ht
    rcases List.mem_append.1 ht with ht | ht
    · refine .inr ⟨redirection, List.mem_cons_self, ?_⟩
      simpa [Clause.tokens] using ht
    · refine (ih ht).imp_right ?_
      rintro ⟨other, hm, he⟩
      exact ⟨other, List.mem_cons_of_mem _ hm, he⟩

/-! ## Expansion -/

theorem substitute_of_noReference {nameMax : Nat} {lookup : Bytes → Option Bytes} {text : Bytes}
    (h : ∀ b, [Bytes.dollar, b] <:+: text → ¬ Bytes.isNameByte b) :
    substitute nameMax lookup text = text := by
  induction text with
  | nil => exact substitute_nil
  | cons c rest ih =>
    have hc : ¬ (c = Bytes.dollar ∧ Piece.startsName rest) := by
      rintro ⟨rfl, hs⟩
      obtain ⟨b, hb, hn⟩ := Piece.startsName_iff.1 hs
      obtain ⟨after, rfl⟩ := List.head?_eq_some_iff.1 hb
      exact h b ⟨[], after, rfl⟩ hn
    rw [substitute_byte hc, ih fun b hb => h b (hb.trans (List.suffix_cons c rest).isInfix)]

theorem Literal.result {limits : ExpansionLimits} {text : Bytes} (h : Literal limits text)
    (lookup : Bytes → Option Bytes) : limits.result lookup text = text := by
  unfold ExpansionLimits.result
  rw [substitute_of_noReference h.noReference, List.take_of_length_le h.length_le]

theorem Arranges.words {limits : ExpansionLimits} {lookup : Bytes → Option Bytes}
    {words : List Bytes} {redirections : List Redirection} {clauses : List Clause}
    (h : Arranges words redirections clauses) (hw : ∀ word ∈ words, Literal limits word) :
    clauses.filterMap (Clause.word? limits lookup) = words.map (⟨·, true⟩) := by
  induction h with
  | nil => rfl
  | word word _ ih =>
    have hl := (hw word List.mem_cons_self).result lookup
    have hc : Clause.word? limits lookup (.word word) = some ⟨word, true⟩ := by
      simp [Clause.word?, hl]
    rw [List.filterMap_cons_some hc, ih fun w hm => hw w (List.mem_cons_of_mem _ hm)]
    rfl
  | redirect redirection _ ih => rw [List.filterMap_cons_none rfl, ih hw]

theorem Arranges.redirections {limits : ExpansionLimits} {lookup : Bytes → Option Bytes}
    {words : List Bytes} {redirections : List Redirection} {clauses : List Clause}
    (h : Arranges words redirections clauses)
    (hr : ∀ redirection ∈ redirections, Literal limits redirection.target) :
    clauses.filterMap (Clause.redirection? limits lookup) = redirections := by
  induction h with
  | nil => rfl
  | word word _ ih => rw [List.filterMap_cons_none rfl, ih hr]
  | redirect redirection _ ih =>
    have hl := (hr redirection List.mem_cons_self).result lookup
    have hc : Clause.redirection? limits lookup
        (.redirect redirection.stream redirection.target) = some redirection := by
      simp [Clause.redirection?, hl]
    rw [List.filterMap_cons_some hc, ih fun r hm => hr r (List.mem_cons_of_mem _ hm)]

/-! ## Lines -/

namespace Session

variable {σ κ ω : Type} [Store σ]

/-- The token of a line that has only one is a word, even if it reads as an operator. -/
theorem parse_single (session : Session σ κ ω) (store : σ) {token : Bytes} (hn : token ≠ [])
    (hs : Bytes.space ∉ token) (hm : 1 ≤ session.config.maxTokens)
    (hc : session.limits.reservable) :
    let text := session.limits.result (Store.get store) token
    session.parse store token = .ok ⟨[⟨text, text = token⟩], []⟩ := by
  have hr : Clause.ofTokens [token] = [.word token] := rfl
  unfold parse Command.ofTokens?
  rw [tokenize_single hn hs hm, hr, Command.ofClauses?_eq_ok hc]
  rfl

/-- **A command that is written as a line is read back from it.** Words and redirections may be
mixed in any way that keeps the order of both, with any spacing, as long as all the tokens are
kept. The command does not depend on the variables, and every word of it is verbatim. -/
theorem parse_spaced (session : Session σ κ ω) (store : σ) {words : List Bytes}
    {redirections : List Redirection} {clauses : List Clause} {line : Bytes}
    (hw : ∀ word ∈ words, Literal session.limits word ∧ ¬ isOperator word)
    (hr : ∀ redirection ∈ redirections, Literal session.limits redirection.target)
    (ha : Arranges words redirections clauses)
    (hl : Spaced (clauses.flatMap Clause.tokens) line)
    (hm : (clauses.flatMap Clause.tokens).length ≤ session.config.maxTokens)
    (hc : session.limits.reservable) :
    session.parse store line = .ok (Command.ofTexts words redirections) := by
  have ht : ∀ token ∈ clauses.flatMap Clause.tokens, token ≠ [] ∧ Bytes.space ∉ token := by
    intro token ht
    rcases ha.mem_tokens ht with hm | ⟨redirection, hm, rfl | rfl⟩
    · exact ⟨(hw token hm).1.ne_nil, (hw token hm).1.space_not_mem⟩
    · exact redirection.stream.operator_isToken
    · exact ⟨(hr redirection hm).ne_nil, (hr redirection hm).space_not_mem⟩
  have hk : tokenize session.config.maxTokens line = clauses.flatMap Clause.tokens := by
    rw [tokenize_eq_take, hl.pieces ht, List.take_of_length_le hm]
  unfold parse Command.ofTokens?
  rw [hk, ha.ofTokens fun word hm => (hw word hm).2, Command.ofClauses?_eq_ok hc,
    ha.words fun word hm => (hw word hm).1, ha.redirections hr]
  rfl

/-- An operator as a target, dollar signs that refer to nothing, a word that just fits, and as many
tokens as are kept. -/
theorem parse_spaced_operator :
    let host : Host Unit Unit := .idle
    let session : Session Table Unit Unit :=
      ⟨host, { expandCapacity := 3, maxTokens := 6 }⟩
    let words := [bytes "cat", bytes "a$"]
    let redirections : List Redirection := [⟨.output, bytes ">"⟩, ⟨.error, bytes "$-"⟩]
    let clauses : List Clause := [.word (bytes "cat"), .redirect .output (bytes ">"),
      .word (bytes "a$"), .redirect .error (bytes "$-")]
    let line := bytes "  cat > >  a$ 2> $- "
    ((∀ word ∈ words, Literal session.limits word ∧ ¬ isOperator word) ∧
      (∀ redirection ∈ redirections, Literal session.limits redirection.target) ∧
      Arranges words redirections clauses ∧ Spaced (clauses.flatMap Clause.tokens) line ∧
      (clauses.flatMap Clause.tokens).length ≤ session.config.maxTokens ∧
      session.limits.reservable) ∧
    session.parse (Table.empty.put (bytes "a") (bytes "b")) line =
      .ok (Command.ofTexts words redirections) := by
  intro host session words redirections clauses line
  have hw : ∀ word ∈ words, Literal session.limits word ∧ ¬ isOperator word := by decide
  have hr : ∀ redirection ∈ redirections, Literal session.limits redirection.target := by decide
  have ha : Arranges words redirections clauses :=
    .word _ (.redirect ⟨.output, bytes ">"⟩ (.word _ (.redirect ⟨.error, bytes "$-"⟩ .nil)))
  have hl : Spaced (clauses.flatMap Clause.tokens) line :=
    .token 2 (.token 1 (.token 1 (.token 2 (.token 1 (.token 1 (.blank 1) nofun) fun _ => rfl)
      fun _ => rfl) fun _ => rfl) fun _ => rfl) fun _ => rfl
  have hm : (clauses.flatMap Clause.tokens).length ≤ session.config.maxTokens := by decide
  have hc : session.limits.reservable := by decide
  exact ⟨⟨hw, hr, ha, hl, hm, hc⟩, session.parse_spaced _ hw hr ha hl hm hc⟩

end Session

end LineShell
