import LineShell.Proofs.Command.Prefix

/-!
# Operators in last place

An operator with no token after it has nothing to redirect to. If it is no target either, it is the
last word of the command (`Reads.exists_last`). It is expanded like any other word, which changes
nothing in it, but like any other word it is cut off at the capacity: that leaves the operator as it
is for every capacity that it fits into (`ofTokens?_trailing`), and only for these
(`ofTokens?_trailing_cut`).
-/

namespace LineShell.Command

theorem exists_positions_word {before : List Bytes} {token : Bytes}
    (h : operatorsBefore (before ++ [token]) before.length % 2 = 0) :
    ∃ front, positions (before ++ [token]) .word = front ++ [before.length] := by
  unfold positions
  rw [List.length_append, List.length_singleton, List.range_succ, List.filter_append,
    List.filter_singleton, roleAt_last h]
  exact ⟨_, rfl⟩

/-- A token in last place gives the last word, unless it is a target. -/
theorem Reads.exists_last {limits : ExpansionLimits} {lookup : Bytes → Option Bytes}
    {before : List Bytes} {token : Bytes} {command : Command}
    (hr : Reads limits lookup (before ++ [token]) command)
    (h : operatorsBefore (before ++ [token]) before.length % 2 = 0) :
    ∃ last, command.words.getLast? = some last ∧ limits.expand lookup token = .ok last.text ∧
      (last.verbatim ↔ last.text = token) := by
  obtain ⟨front, hp⟩ := exists_positions_word h
  have hw := hr.words
  rw [hp] at hw
  obtain ⟨words, last, hwords, _, token', ht, hlast⟩ := forall₂_concat hw
  have ht' : (before ++ [token])[before.length]? = some token := by simp
  obtain rfl : token = token' := Option.some.inj (ht'.symm.trans ht)
  refine ⟨last, ?_, hlast⟩
  rw [hwords, List.getLast?_concat]

theorem dollar_not_mem_operator (stream : Stream) : Bytes.dollar ∉ stream.operator := by
  cases stream <;> decide

/-- There is nothing to expand in an operator, but it may be cut off. -/
theorem result_operator (limits : ExpansionLimits) (lookup : Bytes → Option Bytes)
    (stream : Stream) :
    limits.result lookup stream.operator = stream.operator.take limits.capacity := by
  unfold ExpansionLimits.result
  rw [substitute_of_noReference fun b hb => ?_]
  exact absurd (hb.subset List.mem_cons_self) (dollar_not_mem_operator stream)

theorem take_operator_eq_self_iff {capacity : Nat} (hc : 1 ≤ capacity) (stream : Stream) :
    stream.operator.take capacity = stream.operator ↔
      ¬ (capacity = 1 ∧ stream.operator = bytes "2>") := by
  rw [List.take_eq_self_iff]
  cases stream with
  | input => exact iff_of_true hc (by rintro ⟨_, h⟩; cases h)
  | output => exact iff_of_true hc (by rintro ⟨_, h⟩; cases h)
  | error =>
    have hl : Stream.error.operator.length = 2 := rfl
    have ho : Stream.error.operator = bytes "2>" := rfl
    rw [hl, and_iff_left ho]
    omega

/-- **A trailing operator is the last word**, unless it is a target itself. The word is verbatim,
and thus the operator, for every capacity but one: of `2>`, a capacity of one byte leaves only the
first one. -/
theorem ofTokens?_trailing {limits : ExpansionLimits} (lookup : Bytes → Option Bytes)
    {before : List Bytes} {operator : Bytes} (ho : isOperator operator)
    (he : operatorsBefore (before ++ [operator]) before.length % 2 = 0) (h : limits.reservable)
    (hc : 1 ≤ limits.capacity) :
    ∃ command last, ofTokens? limits lookup (before ++ [operator]) = .ok command ∧
      command.words.getLast? = some last ∧ last.text = operator.take limits.capacity ∧
      (last = ⟨operator, true⟩ ↔ ¬ (limits.capacity = 1 ∧ operator = bytes "2>")) := by
  obtain ⟨command, hp, hr⟩ := exists_reads h lookup (before ++ [operator])
  obtain ⟨stream, hs⟩ := isOperator_iff.1 ho
  obtain rfl := Stream.ofOperator?_eq_some_iff.1 hs
  obtain ⟨⟨text, verbatim⟩, hlast, htext, hverbatim⟩ := hr.exists_last he
  rw [ExpansionLimits.expand_of_reservable h, result_operator] at htext
  have ht : text = stream.operator.take limits.capacity := (Except.ok.inj htext).symm
  refine ⟨command, _, hp, hlast, ht, ?_⟩
  rw [← take_operator_eq_self_iff hc, ← ht, Word.mk.injEq]
  exact and_iff_left_of_imp fun h => hverbatim.2 h

/-- A capacity of two bytes, and an operator that the run before it makes neither a target nor an
operator with one. -/
theorem ofTokens?_trailing_run :
    let limits : ExpansionLimits := { capacity := 2, nameMax := 1 }
    let lookup : Bytes → Option Bytes := fun _ => none
    let before := [bytes "$V", bytes ">", bytes "<"]
    isOperator (bytes "2>") ∧ operatorsBefore (before ++ [bytes "2>"]) before.length % 2 = 0 ∧
      limits.reservable ∧ 1 ≤ limits.capacity ∧
      ∃ command, ofTokens? limits lookup (before ++ [bytes "2>"]) = .ok command ∧
        command.words.getLast? = some ⟨bytes "2>", true⟩ := by
  intro limits lookup before
  have ho : isOperator (bytes "2>") := by decide
  have he : operatorsBefore (before ++ [bytes "2>"]) before.length % 2 = 0 := by decide
  have hr : limits.reservable := by decide
  have hc : 1 ≤ limits.capacity := by decide
  obtain ⟨command, last, hp, hl, _, hv⟩ := ofTokens?_trailing lookup ho he hr hc
  refine ⟨ho, he, hr, hc, command, hp, ?_⟩
  rw [hl, hv.2 (by decide)]

/-- A configuration that admits one byte only: the last word is no operator. -/
theorem ofTokens?_trailing_cut :
    let config : Config := { expandCapacity := 1 }
    let limits : ExpansionLimits :=
      { capacity := config.expandCapacity, nameMax := config.varNameMax }
    let lookup : Bytes → Option Bytes := fun _ => none
    Config.ofText "expand_capacity=1\n".toList = .ok config ∧ limits.reservable ∧
      isOperator (bytes "2>") ∧ operatorsBefore [bytes "2>"] 0 % 2 = 0 ∧
      ∃ command, ofTokens? limits lookup [bytes "2>"] = .ok command ∧
        command.words.getLast? = some ⟨bytes "2", false⟩ ∧
        command.words.getLast? ≠ some ⟨bytes "2>", true⟩ := by
  intro config limits lookup
  have hr : limits.reservable := by decide
  have hres : limits.result lookup (bytes "2>") = bytes "2" := result_operator limits lookup .error
  have hw : Clause.word? limits lookup (.word (bytes "2>")) = some ⟨bytes "2", false⟩ := by
    rw [Clause.word?, hres]
    rfl
  refine ⟨rfl, hr, by decide, by decide, _, ofClauses?_eq_ok hr _, ?_⟩
  rw [Clause.ofTokens, List.filterMap_cons_some hw]
  exact ⟨rfl, by decide⟩

end LineShell.Command
