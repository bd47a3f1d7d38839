import LineShell.Proofs.Command.Rendering

/-!
# The spacing of a line

A line consists of tokens with spaces around them, and in one way only (`tokens_iff`). Tokenizing
it gives the first ones of these tokens. How many spaces there are makes no difference, nor do the
tokens that are not kept: with a single space between neighbours, the kept tokens are a line that
means the same to the shell (`tokenize_tokens`).
-/

namespace LineShell

/-- The line consists of these tokens: runs of bytes that are no spaces, none of them empty, with at
least one space between neighbours and any number of spaces before the first and after the last. -/
structure Tokens (tokens : List Bytes) (line : Bytes) : Prop where
  spaced : Spaced tokens line
  isToken : ∀ token ∈ tokens, token ≠ [] ∧ Bytes.space ∉ token

/-! ## Spaces between pieces -/

theorem Spaced.space {tokens : List Bytes} {line : Bytes} (h : Spaced tokens line) :
    Spaced tokens (Bytes.space :: line) := by
  cases h with
  | blank n => exact .blank (n + 1)
  | token n hr hs => exact .token (n + 1) hr hs

theorem Spaced.single (token : Bytes) : Spaced [token] token := by
  have h : Spaced [token] (List.replicate 0 Bytes.space ++ token ++ List.replicate 0 Bytes.space) :=
    .token 0 (.blank 0) nofun
  rwa [List.replicate_zero, List.nil_append, List.append_nil] at h

/-- Of an empty piece nothing is left but the space after it. -/
theorem spaced_join (pieces : List Bytes) :
    Spaced (pieces.filter (!·.isEmpty)) (join Bytes.space pieces) := by
  induction pieces using join.induct with
  | case1 => exact .blank 0
  | case2 piece =>
    cases piece with
    | nil => exact .blank 0
    | cons b piece => exact .single (b :: piece)
  | case3 piece next pieces ih =>
    rw [join]
    cases piece with
    | nil => exact ih.space
    | cons b piece => exact .token 0 ih.space fun _ => rfl

/-! ## The tokens of a line -/

theorem tokens_allTokens (line : Bytes) : Tokens (allTokens line) line where
  spaced := by
    have h := spaced_join (split Bytes.space line)
    rwa [join_split] at h
  isToken token h := by
    obtain ⟨hs, hn⟩ := List.mem_filter.1 h
    exact ⟨by simpa using hn, not_mem_of_mem_split hs⟩

theorem tokens_iff {tokens : List Bytes} {line : Bytes} :
    Tokens tokens line ↔ tokens = allTokens line := by
  constructor
  · intro h
    exact (h.spaced.pieces h.isToken).symm
  · rintro rfl
    exact tokens_allTokens line

theorem tokens_join {tokens : List Bytes}
    (h : ∀ token ∈ tokens, token ≠ [] ∧ Bytes.space ∉ token) :
    Tokens tokens (join Bytes.space tokens) where
  spaced := by
    have hf : tokens.filter (!·.isEmpty) = tokens :=
      List.filter_eq_self.2 fun token ht => by simpa using (h token ht).1
    have hs := spaced_join tokens
    rwa [hf] at hs
  isToken := h

/-- The kept tokens, with a single space between neighbours, are all the tokens of that line. -/
theorem allTokens_join_tokenize (limit : Nat) (line : Bytes) :
    allTokens (join Bytes.space (tokenize limit line)) = tokenize limit line := by
  refine (tokens_iff.1 (tokens_join fun token h => ?_)).symm
  exact (tokens_allTokens line).isToken token (List.mem_of_mem_take h)

namespace Session

variable {σ κ ω : Type} [Store σ]

/-- A line means to the shell what its kept tokens mean. -/
theorem runLine_of_tokenize_eq {session : Session σ κ ω} {first second : Bytes}
    (h : tokenize session.config.maxTokens first = tokenize session.config.maxTokens second)
    (shell : Shell σ κ ω) : session.runLine shell first = session.runLine shell second := by
  unfold runLine parse
  rw [h]

/-- **Tokens are the runs of bytes between spaces.** A line consists of tokens in exactly one way,
and tokenizing gives the first ones of them, as many as the limit admits. With single spaces between
them they are a line that has the same tokens, and does the same in every shell that keeps no more
of them. -/
theorem tokenize_tokens (session : Session σ κ ω) (line : Bytes) :
    ∃ tokens, (∀ others, Tokens others line ↔ others = tokens) ∧
      ∀ limit, tokenize limit line = tokens.take limit ∧
        let joined := join Bytes.space (tokenize limit line)
        tokenize limit joined = tokenize limit line ∧
          (session.config.maxTokens ≤ limit →
            ∀ shell, session.runLine shell joined = session.runLine shell line) := by
  refine ⟨allTokens line, fun _ => tokens_iff, fun limit => ⟨tokenize_eq_take limit line, ?_⟩⟩
  intro joined
  have hj (kept : Nat) : tokenize kept joined = (allTokens line).take (min kept limit) := by
    rw [tokenize_eq_take, allTokens_join_tokenize, tokenize_eq_take, List.take_take]
  refine ⟨?_, fun hm => runLine_of_tokenize_eq ?_⟩
  · rw [hj, Nat.min_self, tokenize_eq_take]
  · rw [hj, Nat.min_eq_left hm, tokenize_eq_take]

/-- Spaces before, between and after the tokens, a tab inside of one, and a limit that leaves an
operator at the end. -/
theorem tokenize_tokens_limited :
    let host : Host Unit Unit := .idle
    let session : Session Table Unit Unit := ⟨host, { maxTokens := 3 }⟩
    let line := bytes "  echo a\tb   >  c d "
    session.config.maxTokens ≤ 3 ∧ tokenize 3 line = [bytes "echo", bytes "a\tb", bytes ">"] ∧
      ∀ shell, session.runLine shell (bytes "echo a\tb >") = session.runLine shell line := by
  intro host session line
  obtain ⟨_, _, h⟩ := session.tokenize_tokens line
  have ht : tokenize 3 line = [bytes "echo", bytes "a\tb", bytes ">"] := by decide
  have hr := (h 3).2.2 (Nat.le_refl 3)
  rw [ht] at hr
  exact ⟨Nat.le_refl 3, ht, hr⟩

end Session

end LineShell
