import LineShell.Proofs.Text.Utf8
import LineShell.Text.Quoted
import Mathlib.Tactic.SplitIfs

/-!
# Newlines in bytes and in text

The newline byte stands for the newline character and is part of no other character. So the bytes
of a text have a newline where the text has one (`newline_mem_utf8`), and reading bytes as text
neither loses nor invents a newline, whatever junk there is (`newline_mem_lossy`). A quoted text
is shown without any (`newline_not_mem_quoted`).
-/

namespace LineShell.Text

/-- Reads off the characters of a literal, which would be decoded from its bytes otherwise. -/
theorem newline_not_mem_ofList {chars : List Char} (h : '\n' ∉ chars) :
    '\n' ∉ (String.ofList chars).toList := by
  rwa [String.toList_ofList]

/-! ## Writing -/

theorem newline_mem_utf8EncodeChar {c : Char} :
    Bytes.newline ∈ String.utf8EncodeChar c ↔ c = '\n' :=
  mem_utf8EncodeChar_of_ascii (a := '\n') (by decide)

theorem newline_mem_utf8 {text : Text} : Bytes.newline ∈ text.utf8 ↔ '\n' ∈ text := by
  unfold utf8
  rw [List.mem_flatMap]
  constructor
  · rintro ⟨c, hc, hb⟩
    rwa [newline_mem_utf8EncodeChar.1 hb] at hc
  · intro h
    exact ⟨'\n', h, newline_mem_utf8EncodeChar.2 rfl⟩

/-! ## Reading -/

theorem ofNat_eq_newline {n : Nat} : Char.ofNat n = '\n' ↔ n = 10 := by
  constructor
  · intro h
    unfold Char.ofNat at h
    by_cases hv : n.isValidChar
    · rw [dif_pos hv] at h
      exact congrArg Char.toNat h
    · rw [dif_neg hv] at h
      cases h
  · rintro rfl
    rfl

namespace Decoder

/-- A decoder inside of a character takes no newline for a part of it, and the character will not
be one: its value is not zero, or will not be after the next byte if that is not the last. -/
def Apart : Decoder → Prop
  | between => True
  | inside more lo _ value =>
    128 ≤ lo.toNat ∧ (more = 0 → 0 < value) ∧ 0 < value * 64 + (lo.toNat - 128)

theorem newline_mem_start {b : UInt8} : some '\n' ∈ (start b).1 ↔ b = Bytes.newline := by
  unfold start
  split
  · rw [List.mem_singleton, Option.some_inj, eq_comm, ofNat_eq_newline, ← UInt8.toNat_inj]
    rfl
  · rename_i h
    have hb : b ≠ Bytes.newline := by
      rintro rfl
      exact h (by decide)
    simp only [hb, iff_false]
    split_ifs <;> simp

theorem apart_inside {more : Nat} {lo hi : UInt8} {value : Nat} (hlo : 128 ≤ lo.toNat)
    (hv : 0 < value ∨ more ≠ 0 ∧ 128 < lo.toNat) : (inside more lo hi value).Apart := by
  unfold Apart
  omega

theorem apart_start (b : UInt8) : (start b).2.Apart := by
  unfold start
  simp only [UInt8.lt_iff_toNat_lt, ← UInt8.toNat_inj, UInt8.reduceToNat]
  -- a value that starts at zero comes with a next byte above the least one
  split_ifs
  · trivial
  · trivial
  · exact apart_inside (by decide) (.inl (by omega))
  · exact apart_inside (by decide) (.inr (by decide))
  · exact apart_inside (by decide) (.inl (by decide))
  · exact apart_inside (by decide) (.inl (by omega))
  · exact apart_inside (by decide) (.inr (by decide))
  · exact apart_inside (by decide) (.inl (by omega))
  · exact apart_inside (by decide) (.inl (by decide))
  · trivial

theorem newline_mem_feed {decoder : Decoder} {b : UInt8} (h : decoder.Apart) :
    some '\n' ∈ (decoder.feed b).1 ↔ b = Bytes.newline := by
  cases decoder with
  | between => exact newline_mem_start
  | inside more lo hi value =>
    obtain ⟨hlo, hv, _⟩ := h
    rw [feed]
    split
    · rename_i hr
      rw [Bool.and_eq_true, decide_eq_true_iff, UInt8.le_iff_toNat_le] at hr
      have hb : b ≠ Bytes.newline := by
        rintro rfl
        have h10 : Bytes.newline.toNat = 10 := rfl
        omega
      simp only [hb, iff_false]
      cases more with
      | zero =>
        dsimp only
        rw [List.mem_singleton, Option.some_inj, eq_comm, ofNat_eq_newline]
        have := hv rfl
        omega
      | succ more => exact List.not_mem_nil
    · rw [List.mem_cons]
      simp only [reduceCtorEq, false_or]
      exact newline_mem_start

theorem apart_feed {decoder : Decoder} (b : UInt8) (h : decoder.Apart) :
    (decoder.feed b).2.Apart := by
  cases decoder with
  | between => exact apart_start b
  | inside more lo hi value =>
    obtain ⟨hlo, _, hv⟩ := h
    rw [feed]
    split
    · rename_i hr
      rw [Bool.and_eq_true, decide_eq_true_iff, UInt8.le_iff_toNat_le] at hr
      cases more with
      | zero => trivial
      | succ more =>
        exact apart_inside (by decide) (.inl (by omega))
    · exact apart_start b

theorem newline_mem_scan {decoder : Decoder} (h : decoder.Apart) {rest : Bytes} :
    some '\n' ∈ decoder.scan rest ↔ Bytes.newline ∈ rest := by
  induction rest generalizing decoder with
  | nil => cases decoder <;> simp [scan]
  | cons b rest ih =>
    have hs : decoder.scan (b :: rest) = (decoder.feed b).1 ++ (decoder.feed b).2.scan rest := by
      cases decoder <;> rfl
    rw [hs, List.mem_append, newline_mem_feed h, ih (apart_feed b h), List.mem_cons, eq_comm]

end Decoder

theorem newline_mem_lossy {encoded : Bytes} :
    '\n' ∈ lossy encoded ↔ Bytes.newline ∈ encoded := by
  have hs : some '\n' ∈ Decoder.between.scan encoded ↔ Bytes.newline ∈ encoded :=
    Decoder.newline_mem_scan (by trivial)
  unfold lossy
  rw [List.mem_map, ← hs]
  constructor
  · rintro ⟨piece, hp, he⟩
    cases piece with
    | none => cases he
    | some c =>
      cases he
      exact hp
  · intro h
    exact ⟨some '\n', h, rfl⟩

/-! ## Quoting -/

theorem newline_not_mem_hexadecimal (n : Nat) : '\n' ∉ Nat.toDigits 16 n := by
  induction n using Nat.strongRecOn with
  | ind n ih =>
    rw [Nat.toDigits_eq_if (by decide)]
    split
    · simp
    · have hlt : n / 16 < n := Nat.div_lt_self (by omega) (by decide)
      rw [List.mem_append, not_or]
      refine ⟨ih _ hlt, ?_⟩
      simp

theorem newline_not_mem_escape (c : Char) : '\n' ∉ escape c := by
  unfold escape
  split_ifs with _ _ _ hn
  · decide
  · decide
  · decide
  · decide
  · decide
  · decide
  · simp [codePoint, newline_not_mem_hexadecimal]
  · simpa using Ne.symm hn

theorem newline_not_mem_quoted (text : Text) : '\n' ∉ text.quoted := by
  simp [quoted, newline_not_mem_escape]

end LineShell.Text
