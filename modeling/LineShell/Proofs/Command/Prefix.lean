import LineShell.Proofs.Command.Rendering

/-!
# The first tokens of a line

Only so many tokens of a line are kept. They have the roles that they have among all of the tokens,
with one exception: an operator whose target is not kept is a word (`Severed`). So the first tokens
give what all of them give to their positions, but for that word and its redirection
(`ofTokens?_take`).
-/

namespace LineShell

/-- The operator at the position is the last one of the first `n` tokens, and its target comes after
them. -/
structure Severed (tokens : List Bytes) (n i : Nat) : Prop where
  last : n = i + 1
  operator : roleAt tokens i = .operator

section
variable {tokens : List Bytes} {n i : Nat}

/-! ## Roles -/

theorem operatorsBefore_take (h : i ≤ n) :
    operatorsBefore (tokens.take n) i = operatorsBefore tokens i := by
  unfold operatorsBefore
  rw [List.take_take, Nat.min_eq_left h]

theorem roleAt_take (hn : n ≤ tokens.length) (hi : i < n) (hs : ¬ Severed tokens n i) :
    roleAt (tokens.take n) i = roleAt tokens i := by
  have ht : tokens[i]? = some tokens[i] := List.getElem?_eq_getElem (by omega)
  have ht' : (tokens.take n)[i]? = some tokens[i] := by rw [List.getElem?_take_of_lt hi, ht]
  have hl : (tokens.take n).length = n := List.length_take_of_le hn
  have hb : operatorsBefore (tokens.take n) i = operatorsBefore tokens i :=
    operatorsBefore_take (Nat.le_of_lt hi)
  cases hr : roleAt tokens i with
  | target => rwa [roleAt_eq_target, hb, ← roleAt_eq_target]
  | operator =>
    obtain ⟨he, ho, _⟩ := (roleAt_eq_operator ht).1 hr
    have hne : n ≠ i + 1 := fun hl => hs ⟨hl, hr⟩
    exact (roleAt_eq_operator ht').2 ⟨by rw [hb, he], ho, by omega⟩
  | word =>
    obtain ⟨he, ho⟩ := (roleAt_eq_word ht).1 hr
    exact (roleAt_eq_word ht').2 ⟨by rw [hb, he], fun h => ho ⟨h.1, by omega⟩⟩

/-- A token in last place is a word, unless it is a target. -/
theorem roleAt_last {before : List Bytes} {token : Bytes}
    (h : operatorsBefore (before ++ [token]) before.length % 2 = 0) :
    roleAt (before ++ [token]) before.length = .word := by
  have ht : (before ++ [token])[before.length]? = some token := by simp
  exact (roleAt_eq_word ht).2 ⟨h, fun hr => by simp at hr⟩

theorem Severed.roleAt_take (hn : n ≤ tokens.length) (h : Severed tokens n i) :
    roleAt (tokens.take n) i = .word := by
  obtain ⟨rfl, hr⟩ := h
  have he := ((roleAt_eq_operator (List.getElem?_eq_getElem hn)).1 hr).1
  have hl : (tokens.take i).length = i := List.length_take_of_le (Nat.le_of_lt hn)
  rw [← operatorsBefore_take (Nat.le_succ i), List.take_succ_eq_append_getElem hn] at he
  have hw := roleAt_last (by rwa [hl])
  rwa [← List.take_succ_eq_append_getElem hn, hl] at hw

/-! ## Positions -/

theorem filter_lt_range {m : Nat} (h : n ≤ m) :
    (List.range m).filter (· < n) = List.range n := by
  obtain ⟨k, rfl⟩ := Nat.exists_eq_add_of_le h
  have hn : (List.range n).filter (· < n) = List.range n :=
    List.filter_eq_self.2 fun i hi => by simpa using hi
  have hk : ((List.range k).map (n + ·)).filter (· < n) = [] :=
    List.filter_eq_nil_iff.2 fun i hi => by
      obtain ⟨j, _, rfl⟩ := List.mem_map.1 hi
      simp
  rw [List.range_add, List.filter_append, hn, hk, List.append_nil]

theorem positions_filter_lt (hn : n ≤ tokens.length) (role : Role) :
    (positions tokens role).filter (· < n) = (List.range n).filter (roleAt tokens · = role) := by
  unfold positions
  rw [List.filter_comm, filter_lt_range hn]

theorem positions_take (hn : n ≤ tokens.length) (hs : ∀ i, ¬ Severed tokens n i) (role : Role) :
    positions (tokens.take n) role = (positions tokens role).filter (· < n) := by
  rw [positions_filter_lt hn]
  unfold positions
  rw [List.length_take_of_le hn]
  refine List.filter_congr fun j hj => ?_
  rw [roleAt_take hn (List.mem_range.1 hj) (hs j)]

/-- The last position goes over from the operators to the words. -/
theorem Severed.positions_take (hn : n ≤ tokens.length) (h : Severed tokens n i) :
    positions (tokens.take n) .word = (positions tokens .word).filter (· < n) ++ [i] ∧
      (positions tokens .operator).filter (· < n) = positions (tokens.take n) .operator ++ [i] := by
  have hw := h.roleAt_take hn
  obtain ⟨rfl, hr⟩ := h
  -- no position but the last one is severed
  have hc (role : Role) : (List.range i).filter (roleAt (tokens.take (i + 1)) · = role) =
      (List.range i).filter (roleAt tokens · = role) := by
    refine List.filter_congr fun j hj => ?_
    have hji := List.mem_range.1 hj
    rw [LineShell.roleAt_take hn (by omega) fun h => by have := h.last; omega]
  rw [positions_filter_lt hn, positions_filter_lt hn]
  unfold positions
  rw [List.length_take_of_le hn, List.range_succ]
  simp only [List.filter_append, hc]
  simp [hw, hr]

end

/-! ## What goes with the elements of a list -/

section
variable {α β : Type} {R : α → β → Prop}

theorem forall₂_concat {l : List α} {a : α} {items : List β}
    (h : List.Forall₂ R (l ++ [a]) items) :
    ∃ front b, items = front ++ [b] ∧ List.Forall₂ R l front ∧ R a b := by
  have hr := List.forall₂_reverse_iff.2 h
  rw [List.reverse_append] at hr
  obtain ⟨b, rest, hb, hf, he⟩ := List.forall₂_cons_left_iff.1 hr
  refine ⟨rest.reverse, b, ?_, List.forall₂_reverse_iff.1 ?_, hb⟩
  · rw [← List.reverse_reverse items, he, List.reverse_cons]
  · rwa [List.reverse_reverse]

/-- Where there is no choice, the elements that are kept go with the same as in the whole list. -/
theorem zip_filter (hR : Relator.RightUnique R) {p : α → Bool} {l : List α}
    {items kept : List β} (h : List.Forall₂ R l items)
    (hk : List.Forall₂ R (l.filter p) kept) :
    (l.filter p).zip kept = (l.zip items).filter (p ·.1) := by
  induction h generalizing kept with
  | nil => rfl
  | @cons a b l items hab _ ih =>
    rw [List.zip_cons_cons]
    by_cases hp : p a
    · rw [List.filter_cons_of_pos hp] at hk ⊢
      obtain ⟨c, rest, hac, hr, rfl⟩ := List.forall₂_cons_left_iff.1 hk
      rw [List.zip_cons_cons, List.filter_cons_of_pos (by exact hp), ih hr, hR hab hac]
    · rw [List.filter_cons_of_neg hp] at hk ⊢
      rw [List.filter_cons_of_neg (by exact hp), ih hk]

end

namespace Command

/-- The words of a command that is read off the tokens, each with the position of its token. -/
def placedWords (tokens : List Bytes) (command : Command) : List (Nat × Word) :=
  (positions tokens .word).zip command.words

/-- The redirections of a command that is read off the tokens, each with the position of its
operator. -/
def placedRedirections (tokens : List Bytes) (command : Command) : List (Nat × Redirection) :=
  (positions tokens .operator).zip command.redirections

section
variable {limits : ExpansionLimits} {lookup : Bytes → Option Bytes} {tokens : List Bytes}
  {n i : Nat}

theorem exists_reads (h : limits.reservable) (lookup : Bytes → Option Bytes)
    (tokens : List Bytes) :
    ∃ command, ofTokens? limits lookup tokens = .ok command ∧
      Reads limits lookup tokens command :=
  ⟨_, ofClauses?_eq_ok h (Clause.ofTokens tokens), reads_ofTokens h lookup tokens⟩

/-- The word is what the token at the position becomes. -/
def WordAt (limits : ExpansionLimits) (lookup : Bytes → Option Bytes) (tokens : List Bytes)
    (i : Nat) (word : Word) : Prop :=
  ∃ token, tokens[i]? = some token ∧
    limits.expand lookup token = .ok word.text ∧ (word.verbatim ↔ word.text = token)

/-- The redirection is what the operator at the position and the token after it become. -/
def RedirectionAt (limits : ExpansionLimits) (lookup : Bytes → Option Bytes)
    (tokens : List Bytes) (i : Nat) (redirection : Redirection) : Prop :=
  tokens[i]? = some redirection.stream.operator ∧
    ∃ target, tokens[i + 1]? = some target ∧
      limits.expand lookup target = .ok redirection.target

theorem getElem?_of_take {token : Bytes} (h : (tokens.take n)[i]? = some token) :
    tokens[i]? = some token := by
  rw [List.getElem?_take] at h
  split at h
  · exact h
  · cases h

theorem WordAt.unique : Relator.RightUnique (WordAt limits lookup tokens) := by
  rintro i word other ⟨token, ht, he, hv⟩ ⟨token', ht', he', hv'⟩
  obtain rfl : token = token' := Option.some.inj (ht.symm.trans ht')
  have htext : word.text = other.text := Except.ok.inj (he.symm.trans he')
  have hverbatim : word.verbatim = other.verbatim := Bool.eq_iff_iff.2 (by rw [hv, hv', htext])
  cases word
  cases other
  rw [Word.mk.injEq]
  exact ⟨htext, hverbatim⟩

theorem WordAt.of_take {word : Word} (h : WordAt limits lookup (tokens.take n) i word) :
    WordAt limits lookup tokens i word := by
  obtain ⟨token, ht, hw⟩ := h
  exact ⟨token, getElem?_of_take ht, hw⟩

theorem RedirectionAt.unique : Relator.RightUnique (RedirectionAt limits lookup tokens) := by
  rintro i redirection other ⟨hs, target, ht, he⟩ ⟨hs', target', ht', he'⟩
  obtain rfl : target = target' := Option.some.inj (ht.symm.trans ht')
  have htarget : redirection.target = other.target := Except.ok.inj (he.symm.trans he')
  have hop : redirection.stream.operator = other.stream.operator :=
    Option.some.inj (hs.symm.trans hs')
  have hstream : redirection.stream = other.stream := by
    have hr := Stream.ofOperator?_operator redirection.stream
    rw [hop, Stream.ofOperator?_operator] at hr
    exact (Option.some.inj hr).symm
  cases redirection
  cases other
  rw [Redirection.mk.injEq]
  exact ⟨hstream, htarget⟩

theorem RedirectionAt.of_take {redirection : Redirection}
    (h : RedirectionAt limits lookup (tokens.take n) i redirection) :
    RedirectionAt limits lookup tokens i redirection := by
  obtain ⟨hs, target, ht, he⟩ := h
  exact ⟨getElem?_of_take hs, target, getElem?_of_take ht, he⟩

theorem exists_redirectionAt (h : limits.reservable) (lookup : Bytes → Option Bytes)
    (hi : i < tokens.length) (hr : roleAt tokens i = .operator) :
    ∃ redirection, RedirectionAt limits lookup tokens i redirection := by
  obtain ⟨stream, target, hs, ht, _⟩ := exists_clauseAt_operator hi hr
  exact ⟨⟨stream, _⟩, hs, target, ht, ExpansionLimits.expand_of_reservable h lookup target⟩

namespace Reads

variable {whole part : Command}

theorem words_of_take (h : Reads limits lookup (tokens.take n) part) :
    List.Forall₂ (WordAt limits lookup tokens) (positions (tokens.take n) .word) part.words :=
  h.words.imp fun _ _ hw => WordAt.of_take hw

theorem redirections_of_take (h : Reads limits lookup (tokens.take n) part) :
    List.Forall₂ (RedirectionAt limits lookup tokens) (positions (tokens.take n) .operator)
      part.redirections :=
  h.redirections.imp fun _ _ hr => RedirectionAt.of_take hr

/-- What goes with the positions below `n` is what the whole command has there. -/
theorem placedWords_filter (h : Reads limits lookup tokens whole) {words : List Word}
    (hw : List.Forall₂ (WordAt limits lookup tokens) ((positions tokens .word).filter (· < n))
      words) :
    (whole.placedWords tokens).filter (·.1 < n) =
      ((positions tokens .word).filter (· < n)).zip words :=
  (zip_filter WordAt.unique h.words hw).symm

theorem placedRedirections_filter (h : Reads limits lookup tokens whole)
    {redirections : List Redirection}
    (hr : List.Forall₂ (RedirectionAt limits lookup tokens)
      ((positions tokens .operator).filter (· < n)) redirections) :
    (whole.placedRedirections tokens).filter (·.1 < n) =
      ((positions tokens .operator).filter (· < n)).zip redirections :=
  (zip_filter RedirectionAt.unique h.redirections hr).symm

/-- Where no operator is severed, the first tokens give what all of them give up to there. -/
theorem take_of_whole (hn : n ≤ tokens.length) (hs : ∀ i, ¬ Severed tokens n i)
    (hw : Reads limits lookup tokens whole) (hp : Reads limits lookup (tokens.take n) part) :
    part.placedWords (tokens.take n) = (whole.placedWords tokens).filter (·.1 < n) ∧
      part.placedRedirections (tokens.take n) =
        (whole.placedRedirections tokens).filter (·.1 < n) := by
  have hpw := hp.words_of_take
  have hpr := hp.redirections_of_take
  unfold placedWords placedRedirections
  rw [positions_take hn hs] at hpw hpr ⊢
  rw [positions_take hn hs]
  exact ⟨(hw.placedWords_filter hpw).symm, (hw.placedRedirections_filter hpr).symm⟩

/-- A severed operator is one more word, and its redirection is the only one that is lost. -/
theorem take_of_severed (h : limits.reservable) (hn : n ≤ tokens.length)
    (hs : Severed tokens n i) (hw : Reads limits lookup tokens whole)
    (hp : Reads limits lookup (tokens.take n) part) :
    ∃ word redirection, WordAt limits lookup tokens i word ∧
      RedirectionAt limits lookup tokens i redirection ∧
      part.placedWords (tokens.take n) =
        (whole.placedWords tokens).filter (·.1 < n) ++ [(i, word)] ∧
      (whole.placedRedirections tokens).filter (·.1 < n) =
        part.placedRedirections (tokens.take n) ++ [(i, redirection)] := by
  obtain ⟨hpos, hpos'⟩ := hs.positions_take hn
  obtain ⟨redirection, hr⟩ := exists_redirectionAt h lookup (by have := hs.last; omega) hs.operator
  have hpw := hp.words_of_take
  rw [hpos] at hpw
  obtain ⟨front, word, hfront, hf, hword⟩ := forall₂_concat hpw
  have hpr : List.Forall₂ (RedirectionAt limits lookup tokens)
      ((positions tokens .operator).filter (· < n)) (part.redirections ++ [redirection]) := by
    rw [hpos']
    exact List.rel_append hp.redirections_of_take (.cons hr .nil)
  refine ⟨word, redirection, hword, hr, ?_, ?_⟩
  · rw [hw.placedWords_filter hf]
    unfold placedWords
    rw [hpos, hfront, List.zip_append hf.length_eq]
    rfl
  · rw [hw.placedRedirections_filter hpr, hpos']
    unfold placedRedirections
    rw [List.zip_append hp.redirections.length_eq]
    rfl

end Reads

end

/-- **A limit on the tokens cuts a command cleanly.** The first `n` tokens give the words and the
redirections that all of the tokens give to the positions below `n`, in the same order. Only if an
operator comes last and its target is not among them is there a difference: the operator is one more
word in last place, and its redirection is not there. -/
theorem ofTokens?_take {limits : ExpansionLimits} (lookup : Bytes → Option Bytes)
    {tokens : List Bytes} {n : Nat} (h : limits.reservable) (hn : n ≤ tokens.length) :
    ∃ whole part, ofTokens? limits lookup tokens = .ok whole ∧
      ofTokens? limits lookup (tokens.take n) = .ok part ∧
      Reads limits lookup tokens whole ∧ Reads limits lookup (tokens.take n) part ∧
      ((∀ i, ¬ Severed tokens n i) →
        part.placedWords (tokens.take n) = (whole.placedWords tokens).filter (·.1 < n) ∧
        part.placedRedirections (tokens.take n) =
          (whole.placedRedirections tokens).filter (·.1 < n)) ∧
      ∀ i, Severed tokens n i → ∃ word redirection, WordAt limits lookup tokens i word ∧
        RedirectionAt limits lookup tokens i redirection ∧
        part.placedWords (tokens.take n) =
          (whole.placedWords tokens).filter (·.1 < n) ++ [(i, word)] ∧
        (whole.placedRedirections tokens).filter (·.1 < n) =
          part.placedRedirections (tokens.take n) ++ [(i, redirection)] := by
  obtain ⟨whole, hwhole, hw⟩ := exists_reads h lookup tokens
  obtain ⟨part, hpart, hp⟩ := exists_reads h lookup (tokens.take n)
  exact ⟨whole, part, hwhole, hpart, hw, hp, fun hs => hw.take_of_whole hn hs hp,
    fun i hs => hw.take_of_severed h hn hs hp⟩

/-- The cut is behind an operator that comes after a run of two. -/
theorem ofTokens?_take_run :
    let limits : ExpansionLimits := { capacity := 8, nameMax := 8 }
    let lookup : Bytes → Option Bytes := fun _ => none
    let tokens := [bytes "cat", bytes ">", bytes "<", bytes "2>", bytes "$V", bytes "a"]
    limits.reservable ∧ 4 ≤ tokens.length ∧ Severed tokens 4 3 ∧
      ∃ whole part word redirection, ofTokens? limits lookup tokens = .ok whole ∧
        ofTokens? limits lookup (tokens.take 4) = .ok part ∧
        WordAt limits lookup tokens 3 word ∧
        part.placedWords (tokens.take 4) =
          (whole.placedWords tokens).filter (·.1 < 4) ++ [(3, word)] ∧
        (whole.placedRedirections tokens).filter (·.1 < 4) =
          part.placedRedirections (tokens.take 4) ++ [(3, redirection)] := by
  intro limits lookup tokens
  have hr : limits.reservable := by decide
  have hn : 4 ≤ tokens.length := by decide
  have hs : Severed tokens 4 3 := ⟨rfl, by decide⟩
  obtain ⟨whole, part, hw, hp, _, _, _, h⟩ := ofTokens?_take lookup hr hn
  obtain ⟨word, redirection, hword, _, hwords, hredirections⟩ := h 3 hs
  exact ⟨hr, hn, hs, whole, part, word, redirection, hw, hp, hword, hwords, hredirections⟩

end Command

end LineShell
