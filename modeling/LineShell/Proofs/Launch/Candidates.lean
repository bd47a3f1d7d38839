import LineShell.Candidates
import LineShell.Proofs.Input.Lines
import Mathlib.Data.List.Forall2

/-!
# Where a command is looked for

The entries of a search path are its pieces between colons (`PathEntries`), and `Locates` says at
which path an entry has a command. A command without a slash has one candidate for each entry, in
order and as the entry is written; every other command stands for itself (`ofCommand_locates`).
-/

namespace LineShell

/-! ## Pieces put together and cut again -/

section
variable {α : Type} [DecidableEq α] {sep : α}

theorem split_join {pieces : List (List α)} (hn : pieces ≠ []) (h : ∀ piece ∈ pieces, sep ∉ piece) :
    split sep (join sep pieces) = pieces := by
  induction pieces using join.induct with
  | case1 => exact absurd rfl hn
  | case2 piece =>
    have hs : sep ∉ piece := h piece List.mem_cons_self
    exact split_of_cutAt_none (cutAt_eq_none_iff.2 hs)
  | case3 piece next pieces ih =>
    rw [List.forall_mem_cons] at h
    rw [join, split_of_cutAt_some (cutAt_append _ h.1), ih (List.cons_ne_nil _ _) h.2]

theorem length_split (text : List α) : (split sep text).length = text.count sep + 1 := by
  induction text with
  | nil => rfl
  | cons a rest ih =>
    obtain ⟨piece, pieces, hs, hc⟩ := split_cons sep a rest
    rw [hs, List.length_cons] at ih
    rw [hc]
    by_cases ha : a = sep
    · rw [if_pos ha, ha, List.count_cons_self, List.length_cons, List.length_cons, ih]
    · rw [if_neg ha, List.count_cons_of_ne ha, List.length_cons, ih]

end

namespace Candidates

/-- The entries are the pieces of a search path between its colons, empty ones included: put
together with a colon between neighbours they are the path again. -/
structure PathEntries (path : Bytes) (entries : List Bytes) : Prop where
  ne_nil : entries ≠ []
  colon_not_mem : ∀ entry ∈ entries, Bytes.colon ∉ entry
  join_eq : join Bytes.colon entries = path

/-- An entry of the search path has the command at this path. -/
inductive Locates (command : Bytes) : Bytes → Bytes → Prop where
  | here : Locates command [] (bytes "./" ++ command)
  | slashed (front : Bytes) :
      Locates command (front ++ [Bytes.slash]) (front ++ [Bytes.slash] ++ command)
  | below {entry : Bytes} : entry ≠ [] → entry.getLast? ≠ some Bytes.slash →
      Locates command entry (entry ++ Bytes.slash :: command)

theorem pathEntries_iff {path : Bytes} {entries : List Bytes} :
    PathEntries path entries ↔ entries = split Bytes.colon path := by
  constructor
  · rintro ⟨hn, hc, rfl⟩
    exact (split_join hn hc).symm
  · rintro rfl
    exact ⟨split_ne_nil _ _, fun _ h => not_mem_of_mem_split h, join_split _ _⟩

theorem locates_inDirectory (command entry : Bytes) :
    Locates command entry (inDirectory command entry) := by
  unfold inDirectory
  by_cases hn : entry = []
  · rw [hn]
    exact .here
  · rw [if_neg (by simpa using hn)]
    by_cases hs : entry.getLast? = some Bytes.slash
    · obtain ⟨front, rfl⟩ := List.getLast?_eq_some_iff.1 hs
      rw [if_pos hs]
      exact .slashed front
    · rw [if_neg hs]
      exact .below hn hs

/-- Whatever the entry is, the command comes after a slash. -/
theorem Locates.suffix {command entry path : Bytes} (h : Locates command entry path) :
    Bytes.slash :: command <:+ path := by
  cases h with
  | here => exact ⟨bytes ".", rfl⟩
  | slashed front => exact ⟨front, by simp⟩
  | below _ _ => exact ⟨entry, rfl⟩

section
variable (lookup : Bytes → Option Bytes) {command : Bytes}

theorem ofCommand_of_slash_mem (h : Bytes.slash ∈ command) :
    ofCommand lookup command = [command] := by
  have hn : command ≠ [] := List.ne_nil_of_mem h
  unfold ofCommand
  rw [if_neg (by simpa using hn), if_pos (by simpa using h)]

theorem ofCommand_of_slash_not_mem (hn : command ≠ []) (h : Bytes.slash ∉ command) :
    ofCommand lookup command =
      (split Bytes.colon ((lookup pathName).getD defaultPath)).map (inDirectory command) := by
  unfold ofCommand
  rw [if_neg (by simpa using hn), if_neg (by simpa using h)]

end

/-- **The candidates are the entries of the search path, applied to the command.** A command without
a slash has exactly one candidate for each entry, in order: no entry is left out or brought into
another form, and an empty one is the working directory. In each of them the command comes after a
slash. A command with a slash is its own only candidate, and the empty one has none. -/
theorem ofCommand_locates (lookup : Bytes → Option Bytes) (command : Bytes) :
    let path := (lookup (bytes "PATH")).getD (bytes "/bin:/usr/bin")
    (command ≠ [] → Bytes.slash ∉ command →
      ∃ entries, (∀ others, PathEntries path others ↔ others = entries) ∧
        entries.length = path.count Bytes.colon + 1 ∧
        List.Forall₂ (Locates command) entries (ofCommand lookup command) ∧
        ∀ candidate ∈ ofCommand lookup command,
          Bytes.slash ∈ candidate ∧ Bytes.slash :: command <:+ candidate) ∧
    (Bytes.slash ∈ command → ofCommand lookup command = [command]) ∧
    ofCommand lookup [] = [] := by
  intro path
  refine ⟨fun hn hs => ?_, ofCommand_of_slash_mem lookup, rfl⟩
  rw [ofCommand_of_slash_not_mem lookup hn hs]
  refine ⟨split Bytes.colon path, fun _ => pathEntries_iff, length_split path, ?_, ?_⟩
  · rw [List.forall₂_map_right_iff]
    exact List.forall₂_same.2 fun entry _ => locates_inDirectory command entry
  · intro candidate hm
    obtain ⟨entry, -, rfl⟩ := List.mem_map.1 hm
    have h := (locates_inDirectory command entry).suffix
    exact ⟨h.subset List.mem_cons_self, h⟩

/-- A search path with empty entries and one that ends in a slash, and a command that is the name of
a directory. -/
theorem ofCommand_locates_parent :
    let lookup : Bytes → Option Bytes := fun _ => some (bytes ":/b/::a")
    (bytes ".." ≠ [] ∧ Bytes.slash ∉ bytes ".." ∧ Bytes.slash ∈ bytes "a/") ∧
    (∃ entries, PathEntries (bytes ":/b/::a") entries ∧ entries.length = 4 ∧
      List.Forall₂ (Locates (bytes "..")) entries
        [bytes "./..", bytes "/b/..", bytes "./..", bytes "a/.."]) ∧
    ofCommand lookup (bytes "a/") = [bytes "a/"] := by
  intro lookup
  have hn : bytes ".." ≠ [] := by decide
  have hs : Bytes.slash ∉ bytes ".." := by decide
  have hm : Bytes.slash ∈ bytes "a/" := by decide
  obtain ⟨entries, he, hl, hc, -⟩ := (ofCommand_locates lookup (bytes "..")).1 hn hs
  have ho : ofCommand lookup (bytes "..") =
      [bytes "./..", bytes "/b/..", bytes "./..", bytes "a/.."] := by decide
  rw [ho] at hc
  exact ⟨⟨hn, hs, hm⟩, ⟨entries, (he entries).2 rfl, hl, hc⟩,
    (ofCommand_locates lookup (bytes "a/")).2.1 hm⟩

end Candidates

end LineShell
