import LineShell.Command
import LineShell.Proofs.Expansion.Substitution
import Mathlib.Data.List.Forall2

/-!
# The roles of tokens by position

`roleAt tokens i` is the role of the token at position `i`, read off the length of the run of
operators before it: after an odd run it is a target, after an even one an operator redirects if a
token follows it, and everything else is a word. `Clause.ofTokens` walks over the tokens from the
left; `ofTokens_eq_filterMap` says that it finds these roles, and `ofTokens?_reads` that a command
consists of the words and the redirections at their positions.
-/

namespace LineShell

def isOperator (token : Bytes) : Bool :=
  token = bytes "<" || token = bytes ">" || token = bytes "2>"

/-- The length of the run of operators directly before a position. -/
def operatorsBefore (tokens : List Bytes) (i : Nat) : Nat :=
  ((tokens.take i).reverse.takeWhile isOperator).length

inductive Role where
  | word
  | operator
  | target
  deriving DecidableEq, Repr

def roleAt (tokens : List Bytes) (i : Nat) : Role :=
  if operatorsBefore tokens i % 2 = 1 then .target
  else if tokens[i]?.any isOperator ∧ i + 1 < tokens.length then .operator
  else .word

/-- The positions of the tokens with a role, in increasing order. -/
def positions (tokens : List Bytes) (role : Role) : List Nat :=
  (List.range tokens.length).filter (roleAt tokens · = role)

/-! ## Runs of operators -/

theorem isOperator_iff {token : Bytes} :
    isOperator token ↔ ∃ stream, Stream.ofOperator? token = some stream := by
  simp only [Stream.ofOperator?_eq_some_iff]
  constructor
  · intro h
    simp only [isOperator, Bool.or_eq_true, decide_eq_true_eq] at h
    rcases h with (h | h) | h
    · exact ⟨.input, h⟩
    · exact ⟨.output, h⟩
    · exact ⟨.error, h⟩
  · rintro ⟨stream, rfl⟩
    cases stream <;> decide

theorem not_isOperator {token : Bytes} (h : Stream.ofOperator? token = none) :
    ¬ isOperator token := by
  rw [isOperator_iff, h]
  rintro ⟨_, h⟩
  cases h

theorem operatorsBefore_succ {tokens : List Bytes} {i : Nat} {token : Bytes}
    (h : tokens[i]? = some token) :
    operatorsBefore tokens (i + 1) =
      if isOperator token then operatorsBefore tokens i + 1 else 0 := by
  unfold operatorsBefore
  rw [List.take_add_one, h]
  simp only [Option.toList_some, List.reverse_append, List.reverse_singleton,
    List.singleton_append, List.takeWhile_cons]
  split <;> rfl

/-! ## Roles -/

section
variable {tokens : List Bytes} {i : Nat}

theorem roleAt_eq_target : roleAt tokens i = .target ↔ operatorsBefore tokens i % 2 = 1 := by
  unfold roleAt
  split
  · simp_all
  · split <;> simp_all

theorem roleAt_eq_operator {token : Bytes} (ht : tokens[i]? = some token) :
    roleAt tokens i = .operator ↔ operatorsBefore tokens i % 2 = 0 ∧ isOperator token ∧
      i + 1 < tokens.length := by
  unfold roleAt
  rw [ht, Option.any_some]
  split
  · simp_all
  · split
    · rename_i h
      exact ⟨fun _ => ⟨by omega, h⟩, fun _ => rfl⟩
    · rename_i h
      exact ⟨nofun, fun hr => absurd hr.2 h⟩

theorem roleAt_eq_word {token : Bytes} (ht : tokens[i]? = some token) :
    roleAt tokens i = .word ↔ operatorsBefore tokens i % 2 = 0 ∧
      ¬ (isOperator token ∧ i + 1 < tokens.length) := by
  unfold roleAt
  rw [ht, Option.any_some]
  split
  · simp_all
  · split
    · rename_i h
      exact ⟨nofun, fun hr => absurd h hr.2⟩
    · rename_i h
      exact ⟨fun _ => ⟨by omega, h⟩, fun _ => rfl⟩

theorem mem_positions {role : Role} :
    i ∈ positions tokens role ↔ i < tokens.length ∧ roleAt tokens i = role := by
  simp [positions]

/-- The targets are the tokens directly after the operators. -/
theorem mem_positions_target :
    i ∈ positions tokens .target ↔ ∃ j ∈ positions tokens .operator, i = j + 1 := by
  constructor
  · intro h
    obtain ⟨hi, hr⟩ := mem_positions.1 h
    have hodd := roleAt_eq_target.1 hr
    cases i with
    | zero => simp [operatorsBefore] at hodd
    | succ j =>
      have ht : tokens[j]? = some tokens[j] := List.getElem?_eq_getElem (by omega)
      rw [operatorsBefore_succ ht] at hodd
      split at hodd
      · rename_i ho
        have hj := (roleAt_eq_operator ht).2 ⟨by omega, ho, hi⟩
        exact ⟨j, mem_positions.2 ⟨by omega, hj⟩, rfl⟩
      · cases hodd
  · rintro ⟨j, h, rfl⟩
    obtain ⟨hj, hr⟩ := mem_positions.1 h
    have ht : tokens[j]? = some tokens[j] := List.getElem?_eq_getElem hj
    obtain ⟨heven, ho, hi⟩ := (roleAt_eq_operator ht).1 hr
    have hodd : operatorsBefore tokens (j + 1) % 2 = 1 := by
      rw [operatorsBefore_succ ht, if_pos ho]
      omega
    exact mem_positions.2 ⟨hi, roleAt_eq_target.2 hodd⟩

/-! ## The walk over the tokens -/

/-- What a position contributes to the clauses: a target has been taken by its operator. -/
def clauseAt (tokens : List Bytes) (i : Nat) : Option Clause :=
  match roleAt tokens i with
  | .target => none
  | .word => tokens[i]?.map .word
  | .operator => do
    let stream ← Stream.ofOperator? (← tokens[i]?)
    let target ← tokens[i + 1]?
    return .redirect stream target

theorem clauseAt_target (hr : roleAt tokens i = .target) : clauseAt tokens i = none := by
  rw [clauseAt, hr]

theorem clauseAt_word {token : Bytes} (ht : tokens[i]? = some token)
    (hr : roleAt tokens i = .word) : clauseAt tokens i = some (.word token) := by
  rw [clauseAt, hr, ht]
  rfl

theorem clauseAt_operator {token target : Bytes} {stream : Stream} (ht : tokens[i]? = some token)
    (hs : Stream.ofOperator? token = some stream) (hn : tokens[i + 1]? = some target)
    (hr : roleAt tokens i = .operator) : clauseAt tokens i = some (.redirect stream target) := by
  rw [clauseAt, hr, ht, hn]
  show (Stream.ofOperator? token).bind _ = _
  rw [hs]
  rfl

theorem exists_clauseAt_operator (hi : i < tokens.length) (hr : roleAt tokens i = .operator) :
    ∃ stream target, tokens[i]? = some stream.operator ∧ tokens[i + 1]? = some target ∧
      clauseAt tokens i = some (.redirect stream target) := by
  have ht : tokens[i]? = some tokens[i] := List.getElem?_eq_getElem hi
  obtain ⟨_, ho, hn⟩ := (roleAt_eq_operator ht).1 hr
  obtain ⟨stream, hs⟩ := isOperator_iff.1 ho
  have hn : tokens[i + 1]? = some tokens[i + 1] := List.getElem?_eq_getElem hn
  refine ⟨stream, tokens[i + 1], ?_, hn, clauseAt_operator ht hs hn hr⟩
  rw [ht, Stream.ofOperator?_eq_some_iff.1 hs]

end

/-- The walk from a position after an even run of operators on: it finds the roles that the
positions have in the whole list. -/
theorem ofTokens_eq_filterMap_range' (before rest : List Bytes)
    (h : operatorsBefore (before ++ rest) before.length % 2 = 0) :
    Clause.ofTokens rest =
      (List.range' before.length rest.length).filterMap (clauseAt (before ++ rest)) := by
  induction rest using Clause.ofTokens.induct generalizing before with
  | case1 => rfl
  | case2 token =>
    have ht : (before ++ [token])[before.length]? = some token := by simp
    have hc := clauseAt_word ht ((roleAt_eq_word ht).2 ⟨h, fun hr => by simp at hr⟩)
    rw [Clause.ofTokens, List.length_singleton, List.range'_one, List.filterMap_cons_some hc]
    rfl
  | case3 token next rest stream hs ih =>
    have hl : before ++ token :: next :: rest = before ++ [token, next] ++ rest := by simp
    have hlen : (before ++ [token, next]).length = before.length + 1 + 1 := by simp
    have ih := ih (before ++ [token, next])
    rw [← hl, hlen] at ih
    generalize hts : before ++ token :: next :: rest = tokens at h ih ⊢
    have ht : tokens[before.length]? = some token := by rw [← hts]; simp
    have hn : tokens[before.length + 1]? = some next := by
      rw [← hts, List.getElem?_append_right (by omega)]
      simp
    have ho : isOperator token := isOperator_iff.2 ⟨stream, hs⟩
    have hodd : operatorsBefore tokens (before.length + 1) % 2 = 1 := by
      rw [operatorsBefore_succ ht, if_pos ho]
      omega
    -- the target ends the run, or it is an operator itself and makes the run even again
    have heven : operatorsBefore tokens (before.length + 1 + 1) % 2 = 0 := by
      rw [operatorsBefore_succ hn]
      split <;> omega
    have hi : before.length + 1 < tokens.length := (List.getElem?_eq_some_iff.1 hn).1
    have hc := clauseAt_operator ht hs hn ((roleAt_eq_operator ht).2 ⟨h, ho, hi⟩)
    have hc' := clauseAt_target (roleAt_eq_target.2 hodd)
    rw [Clause.ofTokens, hs, List.length_cons, List.length_cons, List.range'_succ,
      List.range'_succ, List.filterMap_cons_some hc, List.filterMap_cons_none hc', ← ih heven]
  | case4 token next rest hs ih =>
    have hl : before ++ token :: next :: rest = before ++ [token] ++ next :: rest := by simp
    have hlen : (before ++ [token]).length = before.length + 1 := by simp
    have ih := ih (before ++ [token])
    rw [← hl, hlen] at ih
    generalize hts : before ++ token :: next :: rest = tokens at h ih ⊢
    have ht : tokens[before.length]? = some token := by rw [← hts]; simp
    have ho : ¬ isOperator token := not_isOperator hs
    have hzero : operatorsBefore tokens (before.length + 1) = 0 := by
      rw [operatorsBefore_succ ht, if_neg ho]
    have hc := clauseAt_word ht ((roleAt_eq_word ht).2 ⟨h, fun hr => ho hr.1⟩)
    rw [Clause.ofTokens, hs, List.length_cons, List.range'_succ, List.filterMap_cons_some hc,
      ← ih (by rw [hzero])]

theorem ofTokens_eq_filterMap (tokens : List Bytes) :
    Clause.ofTokens tokens = (List.range tokens.length).filterMap (clauseAt tokens) := by
  rw [List.range_eq_range']
  exact ofTokens_eq_filterMap_range' [] tokens rfl

/-! ## Words and redirections of clauses -/

namespace Clause

/-- The word that a clause becomes, if it is one. -/
def word? (limits : ExpansionLimits) (lookup : Bytes → Option Bytes) : Clause → Option Word
  | .word token => some ⟨limits.result lookup token, limits.result lookup token = token⟩
  | .redirect _ _ => none

/-- The redirection that a clause becomes, if it is one. -/
def redirection? (limits : ExpansionLimits) (lookup : Bytes → Option Bytes) :
    Clause → Option Redirection
  | .word _ => none
  | .redirect stream target => some ⟨stream, limits.result lookup target⟩

/-- A word stands for one token and a redirection for two. -/
theorem length_tokens (limits : ExpansionLimits) (lookup : Bytes → Option Bytes)
    (tokens : List Bytes) :
    tokens.length = ((ofTokens tokens).filterMap (word? limits lookup)).length +
      2 * ((ofTokens tokens).filterMap (redirection? limits lookup)).length := by
  induction tokens using ofTokens.induct with
  | case1 => rfl
  | case2 token => rfl
  | case3 token next rest stream hs ih =>
    simp only [ofTokens, hs, word?, redirection?, List.filterMap_cons, List.length_cons]
    omega
  | case4 token next rest hs ih =>
    simp only [List.length_cons] at ih
    simp only [ofTokens, hs, word?, redirection?, List.filterMap_cons, List.length_cons]
    omega

end Clause

/-- Filtering a list and mapping what is kept, at once. -/
theorem forall₂_filter_filterMap {α β : Type} {R : α → β → Prop} {p : α → Bool}
    {f : α → Option β} {l : List α} (hk : ∀ a ∈ l, p a → ∃ b, f a = some b ∧ R a b)
    (hd : ∀ a ∈ l, ¬ p a → f a = none) : List.Forall₂ R (l.filter p) (l.filterMap f) := by
  induction l with
  | nil => exact .nil
  | cons a l ih =>
    have ih := ih (fun b hb => hk b (List.mem_cons_of_mem _ hb))
      (fun b hb => hd b (List.mem_cons_of_mem _ hb))
    by_cases hp : p a
    · obtain ⟨b, hb, hR⟩ := hk a List.mem_cons_self hp
      rw [List.filter_cons_of_pos hp, List.filterMap_cons_some hb]
      exact .cons hR ih
    · rw [List.filter_cons_of_neg hp, List.filterMap_cons_none (hd a List.mem_cons_self hp)]
      exact ih

/-- What is made of the clauses stands at the positions of one role. -/
theorem forall₂_positions {α : Type} {tokens : List Bytes} {role : Role} {f : Clause → Option α}
    {R : Nat → α → Prop}
    (hk : ∀ i < tokens.length, roleAt tokens i = role →
      ∃ a, (clauseAt tokens i).bind f = some a ∧ R i a)
    (hd : ∀ i < tokens.length, roleAt tokens i ≠ role → (clauseAt tokens i).bind f = none) :
    List.Forall₂ R (positions tokens role) ((Clause.ofTokens tokens).filterMap f) := by
  rw [ofTokens_eq_filterMap, List.filterMap_filterMap]
  refine forall₂_filter_filterMap (fun i hi hr => ?_) (fun i hi hr => ?_)
  · exact hk i (List.mem_range.1 hi) (by simpa using hr)
  · exact hd i (List.mem_range.1 hi) (by simpa using hr)

namespace Command

section
variable {limits : ExpansionLimits} {lookup : Bytes → Option Bytes}

theorem ofClauses?_eq_ok (h : limits.reservable) (clauses : List Clause) :
    ofClauses? limits lookup clauses =
      .ok { words := clauses.filterMap (Clause.word? limits lookup)
            redirections := clauses.filterMap (Clause.redirection? limits lookup) } := by
  induction clauses with
  | nil => rfl
  | cons clause rest ih =>
    cases clause with
    | word token =>
      have hw := ExpansionLimits.expand_of_reservable h lookup token
      simp only [ofClauses?, word?, hw, ih]
      rfl
    | redirect stream target =>
      have ht := ExpansionLimits.expand_of_reservable h lookup target
      simp only [ofClauses?, redirection?, ht, ih]
      rfl

end

/-- The command has a word for each position of a word and a redirection for each operator, in
the order of the positions. A word is verbatim if expansion has left its token as it was, and the
token after an operator names the target. -/
structure Reads (limits : ExpansionLimits) (lookup : Bytes → Option Bytes) (tokens : List Bytes)
    (command : Command) : Prop where
  words : List.Forall₂
    (fun i word => ∃ token, tokens[i]? = some token ∧
      limits.expand lookup token = .ok word.text ∧ (word.verbatim ↔ word.text = token))
    (positions tokens .word) command.words
  redirections : List.Forall₂
    (fun i redirection => tokens[i]? = some redirection.stream.operator ∧
      ∃ target, tokens[i + 1]? = some target ∧
        limits.expand lookup target = .ok redirection.target)
    (positions tokens .operator) command.redirections

theorem reads_ofTokens {limits : ExpansionLimits} (h : limits.reservable)
    (lookup : Bytes → Option Bytes) (tokens : List Bytes) :
    Reads limits lookup tokens
      { words := (Clause.ofTokens tokens).filterMap (Clause.word? limits lookup)
        redirections := (Clause.ofTokens tokens).filterMap
          (Clause.redirection? limits lookup) } where
  words := by
    refine forall₂_positions (fun i hi hr => ?_) (fun i hi hr => ?_)
    · have ht : tokens[i]? = some tokens[i] := List.getElem?_eq_getElem hi
      rw [clauseAt_word ht hr]
      exact ⟨_, rfl, tokens[i], ht, ExpansionLimits.expand_of_reservable h _ _, by simp⟩
    · cases hrole : roleAt tokens i with
      | word => exact absurd hrole hr
      | operator =>
        obtain ⟨stream, target, _, _, hc⟩ := exists_clauseAt_operator hi hrole
        rw [hc]
        rfl
      | target => rw [clauseAt_target hrole]; rfl
  redirections := by
    refine forall₂_positions (fun i hi hr => ?_) (fun i hi hr => ?_)
    · obtain ⟨stream, target, ht, hn, hc⟩ := exists_clauseAt_operator hi hr
      rw [hc]
      exact ⟨_, rfl, ht, target, hn, ExpansionLimits.expand_of_reservable h _ _⟩
    · cases hrole : roleAt tokens i with
      | word =>
        rw [clauseAt_word (List.getElem?_eq_getElem hi) hrole]
        rfl
      | operator => exact absurd hrole hr
      | target => rw [clauseAt_target hrole]; rfl

/-- **Every token has one role**: parsing gives the words and the redirections at the positions
that have these roles, and every target belongs to the operator before it. -/
theorem ofTokens?_reads (limits : ExpansionLimits) (lookup : Bytes → Option Bytes)
    (tokens : List Bytes) (h : limits.reservable) :
    ∃ command, ofTokens? limits lookup tokens = .ok command ∧
      Reads limits lookup tokens command ∧
      (∀ i, i ∈ positions tokens .target ↔ ∃ j ∈ positions tokens .operator, i = j + 1) ∧
      tokens.length = command.words.length + 2 * command.redirections.length := by
  refine ⟨_, ?_, reads_ofTokens h lookup tokens, fun i => mem_positions_target, ?_⟩
  · exact ofClauses?_eq_ok h (Clause.ofTokens tokens)
  · exact Clause.length_tokens limits lookup tokens

/-- An operator as a target, a run of operators, and an operator in last place. -/
theorem ofTokens?_reads_run :
    let limits : ExpansionLimits := { capacity := 8, nameMax := 8 }
    limits.reservable ∧
      ∃ command, ofTokens? limits (fun _ => none)
          [bytes "cat", bytes ">", bytes "<", bytes "$V", bytes "2>"] = .ok command ∧
        Reads limits (fun _ => none)
          [bytes "cat", bytes ">", bytes "<", bytes "$V", bytes "2>"] command ∧
        (∀ i, i ∈ positions [bytes "cat", bytes ">", bytes "<", bytes "$V", bytes "2>"] .target ↔
          ∃ j ∈ positions [bytes "cat", bytes ">", bytes "<", bytes "$V", bytes "2>"] .operator,
            i = j + 1) ∧
        5 = command.words.length + 2 * command.redirections.length := by
  intro limits
  have hr : limits.reservable := by decide
  exact ⟨hr, ofTokens?_reads limits _ _ hr⟩

end Command

end LineShell
