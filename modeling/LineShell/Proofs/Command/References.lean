import LineShell.Command
import Mathlib.Data.List.Basic

/-!
# What a command reads of the variables

A text is expanded to the same bytes by any two assignments of values that agree on the names it
refers to (`expand_congr`), and the tokens of a line give the same command wherever each of them
is expanded to the same bytes (`ofTokens?_congr`).
-/

namespace LineShell

theorem Piece.fill_congr {first second : Bytes → Option Bytes} {pieces : List Piece} (room : Nat)
    (h : ∀ name, .reference name ∈ pieces → first name = second name) :
    fill first room pieces = fill second room pieces := by
  rw [fill_eq_take, fill_eq_take, List.flatMap_congr]
  intro piece hp
  cases piece with
  | byte b => rfl
  | reference name => rw [value, value, h name hp]

theorem ExpansionLimits.expand_congr (limits : ExpansionLimits)
    {first second : Bytes → Option Bytes} {text : Bytes}
    (h : ∀ name, .reference name ∈ Piece.ofText limits.nameMax text → first name = second name) :
    limits.expand first text = limits.expand second text := by
  unfold expand
  rw [Piece.fill_congr limits.capacity h]

namespace Command

variable {limits : ExpansionLimits} {first second : Bytes → Option Bytes}

theorem word?_congr {token : Bytes} (h : limits.expand first token = limits.expand second token) :
    word? limits first token = word? limits second token := by
  unfold word?
  rw [h]

theorem redirection?_congr {token : Bytes} (stream : Stream)
    (h : limits.expand first token = limits.expand second token) :
    redirection? limits first stream token = redirection? limits second stream token := by
  unfold redirection?
  rw [h]

theorem ofTokens?_congr {tokens : List Bytes}
    (h : ∀ token ∈ tokens, limits.expand first token = limits.expand second token) :
    ofTokens? limits first tokens = ofTokens? limits second tokens := by
  unfold ofTokens?
  induction tokens using Clause.ofTokens.induct with
  | case1 => rfl
  | case2 token =>
    rw [Clause.ofTokens, ofClauses?, ofClauses?, word?_congr (h token List.mem_cons_self)]
    rfl
  | case3 token next rest stream hs ih =>
    have hn : next ∈ token :: next :: rest := List.mem_cons_of_mem _ List.mem_cons_self
    have hr := ih fun t ht => h t (List.mem_cons_of_mem _ (List.mem_cons_of_mem _ ht))
    rw [Clause.ofTokens, hs]
    dsimp only
    rw [ofClauses?, ofClauses?, redirection?_congr stream (h next hn), hr]
  | case4 token next rest hs ih =>
    have hr := ih fun t ht => h t (List.mem_cons_of_mem _ ht)
    rw [Clause.ofTokens, hs]
    dsimp only
    rw [ofClauses?, ofClauses?, word?_congr (h token List.mem_cons_self), hr]

end Command

end LineShell
