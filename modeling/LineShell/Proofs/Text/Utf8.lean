import LineShell.Text.Utf8
import Mathlib.Tactic.SplitIfs

/-!
# Reading what has been written as UTF-8

Reading the bytes of a text gives the text (`decode_utf8`), and no other bytes are read as it
(`decode_eq_some_iff`). A byte that stands for a character by itself is part of no other character
(`mem_utf8EncodeChar_of_ascii`).
-/

namespace LineShell.Text

@[simp] theorem utf8_nil : utf8 [] = [] := rfl

@[simp] theorem utf8_cons (c : Char) (text : Text) :
    utf8 (c :: text) = String.utf8EncodeChar c ++ utf8 text := rfl

@[simp] theorem utf8_append (first second : Text) :
    utf8 (first ++ second) = utf8 first ++ utf8 second := List.flatMap_append

theorem mem_utf8EncodeChar_of_ascii {a c : Char} (ha : a.toNat < 128) :
    UInt8.ofNat a.toNat ∈ String.utf8EncodeChar c ↔ c = a := by
  have hc : c = a ↔ c.val.toNat = a.toNat := by
    rw [← Char.val_inj, ← UInt32.toNat_inj]
    rfl
  have hb (n : Nat) (h : n < 256) : UInt8.ofNat a.toNat = UInt8.ofNat n ↔ n = a.toNat := by
    rw [← UInt8.toNat_inj, UInt8.toNat_ofNat', UInt8.toNat_ofNat', Nat.mod_eq_of_lt h,
      Nat.mod_eq_of_lt (by omega)]
    exact eq_comm
  rw [hc]
  unfold String.utf8EncodeChar
  dsimp only
  generalize c.val.toNat = v
  split
  · rw [List.mem_singleton, hb v (by omega)]
  · -- every byte of a longer character is at least 128
    split
    · simp only [List.mem_cons, List.not_mem_nil, or_false]
      rw [hb _ (by omega), hb _ (by omega)]
      omega
    · split
      · simp only [List.mem_cons, List.not_mem_nil, or_false]
        rw [hb _ (by omega), hb _ (by omega), hb _ (by omega)]
        omega
      · simp only [List.mem_cons, List.not_mem_nil, or_false]
        rw [hb _ (by omega), hb _ (by omega), hb _ (by omega), hb _ (by omega)]
        omega

namespace Decoder

/-! ## First bytes -/

theorem start_one (k : Nat) (h : k < 128) :
    start (UInt8.ofNat k) = ([some (Char.ofNat k)], between) := by
  have hk : (UInt8.ofNat k).toNat = k := by
    rw [UInt8.toNat_ofNat', Nat.mod_eq_of_lt (by omega)]
  have hb : UInt8.ofNat k < 0x80 := by
    rw [UInt8.lt_iff_toNat_lt, hk]
    exact h
  rw [start, if_pos hb, hk]

theorem start_two : ∀ k < 32, 2 ≤ k →
    start (UInt8.ofNat (k + 192)) = ([], inside 0 0x80 0xbf k) := by decide

theorem start_three : ∀ k < 16, start (UInt8.ofNat (k + 224)) =
    ([], inside 1 (if k = 0 then 0xa0 else 0x80) (if k = 13 then 0x9f else 0xbf) k) := by decide

theorem start_four : ∀ k < 5, start (UInt8.ofNat (k + 240)) =
    ([], inside 2 (if k = 0 then 0x90 else 0x80) (if k = 4 then 0x8f else 0xbf) k) := by decide

/-! ## Bytes inside of a character -/

variable {more n value : Nat} {lo hi : UInt8}

theorem feed_inside (hn : n < 64) (hl : lo.toNat ≤ n + 128) (hh : n + 128 ≤ hi.toNat) :
    (inside more lo hi value).feed (UInt8.ofNat (n + 128)) =
      match more with
      | 0 => ([some (Char.ofNat (value * 64 + n))], between)
      | more + 1 => ([], inside more 0x80 0xbf (value * 64 + n)) := by
  have hb : (UInt8.ofNat (n + 128)).toNat = n + 128 := by
    rw [UInt8.toNat_ofNat', Nat.mod_eq_of_lt (by omega)]
  have hr : (lo ≤ UInt8.ofNat (n + 128) && UInt8.ofNat (n + 128) ≤ hi) = true := by
    simp only [UInt8.le_iff_toNat_le, hb, hl, hh, decide_true, Bool.and_self]
  have hs : n + 128 - 128 = n := by omega
  cases more with
  | zero => simp only [feed, hr, ↓reduceIte, hb, hs]
  | succ more => simp only [feed, hr, ↓reduceIte, hb, hs]

theorem scan_last (rest : Bytes) (hn : n < 64) (hl : lo.toNat ≤ n + 128)
    (hh : n + 128 ≤ hi.toNat) :
    (inside 0 lo hi value).scan (UInt8.ofNat (n + 128) :: rest) =
      some (Char.ofNat (value * 64 + n)) :: between.scan rest := by
  rw [scan, feed_inside hn hl hh]
  rfl

theorem scan_next (rest : Bytes) (hn : n < 64) (hl : lo.toNat ≤ n + 128)
    (hh : n + 128 ≤ hi.toNat) :
    (inside (more + 1) lo hi value).scan (UInt8.ofNat (n + 128) :: rest) =
      (inside more 0x80 0xbf (value * 64 + n)).scan rest := by
  rw [scan, feed_inside hn hl hh]
  rfl

theorem scan_first {b : UInt8} {next : Decoder} (rest : Bytes) (h : start b = ([], next)) :
    between.scan (b :: rest) = next.scan rest := by
  rw [scan, feed, h]
  rfl

/-! ## Whole characters -/

theorem scan_utf8EncodeChar (c : Char) (rest : Bytes) :
    between.scan (String.utf8EncodeChar c ++ rest) = some c :: between.scan rest := by
  have hv := c.valid
  have hc : Char.ofNat c.val.toNat = c := Char.ofNat_toNat c
  unfold String.utf8EncodeChar
  dsimp only
  simp only [UInt32.isValidChar, Nat.isValidChar] at hv
  generalize c.val.toNat = v at hv hc
  split
  · rename_i h1
    rw [List.singleton_append, scan, feed, start_one v (by omega), hc]
    rfl
  · rename_i h1
    split
    · rename_i h2
      have he : v / 64 % 32 * 64 + v % 64 = v := by omega
      rw [List.cons_append, scan_first _ (start_two (v / 64 % 32) (by omega) (by omega)),
        List.cons_append, scan_last _ (by omega) (by simp) (by simp; omega), he, hc]
      rfl
    · rename_i h2
      split
      · rename_i h3
        have he : (v / 4096 % 16 * 64 + v / 64 % 64) * 64 + v % 64 = v := by omega
        -- the second byte keeps short values and the values of no character away
        have hl : (if v / 4096 % 16 = 0 then 0xa0 else 0x80 : UInt8).toNat ≤
            v / 64 % 64 + 128 := by
          split
          · simp
            omega
          · simp
        have hh : v / 64 % 64 + 128 ≤
            (if v / 4096 % 16 = 13 then 0x9f else 0xbf : UInt8).toNat := by
          split
          · simp
            omega
          · simp
            omega
        rw [List.cons_append, scan_first _ (start_three (v / 4096 % 16) (by omega)),
          List.cons_append, scan_next _ (by omega) hl hh,
          List.cons_append, scan_last _ (by omega) (by simp) (by simp; omega), he, hc]
        rfl
      · rename_i h3
        have he : ((v / 262144 % 8 * 64 + v / 4096 % 64) * 64 + v / 64 % 64) * 64 + v % 64 = v := by
          omega
        have hl : (if v / 262144 % 8 = 0 then 0x90 else 0x80 : UInt8).toNat ≤
            v / 4096 % 64 + 128 := by
          split
          · simp
            omega
          · simp
        have hh : v / 4096 % 64 + 128 ≤
            (if v / 262144 % 8 = 4 then 0x8f else 0xbf : UInt8).toNat := by
          split
          · simp
            omega
          · simp
            omega
        rw [List.cons_append, scan_first _ (start_four (v / 262144 % 8) (by omega)),
          List.cons_append, scan_next _ (by omega) hl hh,
          List.cons_append, scan_next _ (by omega) (by simp) (by simp; omega),
          List.cons_append, scan_last _ (by omega) (by simp) (by simp; omega), he, hc]
        rfl

/-! ## Bytes that are read as a character -/

theorem val_ofNat {v : Nat} (h : v.isValidChar) : (Char.ofNat v).val.toNat = v := by
  rw [Char.ofNat, dif_pos h]
  rfl

theorem utf8EncodeChar_one {k : Nat} (hk : k < 128) :
    String.utf8EncodeChar (Char.ofNat k) = [UInt8.ofNat k] := by
  have hv : (Char.ofNat k).val.toNat = k := val_ofNat (.inl (by omega))
  unfold String.utf8EncodeChar
  dsimp only
  rw [hv, if_pos (by omega)]

theorem utf8EncodeChar_two {k n : Nat} (hl : 2 ≤ k) (hk : k < 32) (hn : n < 64) :
    String.utf8EncodeChar (Char.ofNat (k * 64 + n)) =
      [UInt8.ofNat (k + 192), UInt8.ofNat (n + 128)] := by
  have hv : (Char.ofNat (k * 64 + n)).val.toNat = k * 64 + n := val_ofNat (.inl (by omega))
  have h0 : (k * 64 + n) / 64 % 32 = k := by omega
  have h1 : (k * 64 + n) % 64 = n := by omega
  unfold String.utf8EncodeChar
  dsimp only
  rw [hv, if_neg (by omega), if_pos (by omega), h0, h1]

theorem utf8EncodeChar_three {k m n : Nat} (hk : k < 16) (hm : m < 64) (hn : n < 64)
    (hl : k = 0 → 32 ≤ m) (hh : k = 13 → m < 32) :
    String.utf8EncodeChar (Char.ofNat ((k * 64 + m) * 64 + n)) =
      [UInt8.ofNat (k + 224), UInt8.ofNat (m + 128), UInt8.ofNat (n + 128)] := by
  have hc : ((k * 64 + m) * 64 + n).isValidChar := by
    unfold Nat.isValidChar
    omega
  have hv := val_ofNat hc
  have h0 : ((k * 64 + m) * 64 + n) / 4096 % 16 = k := by omega
  have h1 : ((k * 64 + m) * 64 + n) / 64 % 64 = m := by omega
  have h2 : ((k * 64 + m) * 64 + n) % 64 = n := by omega
  unfold String.utf8EncodeChar
  dsimp only
  rw [hv, if_neg (by omega), if_neg (by omega), if_pos (by omega), h0, h1, h2]

theorem utf8EncodeChar_four {k l m n : Nat} (hk : k < 5) (hl : l < 64) (hm : m < 64) (hn : n < 64)
    (h0 : k = 0 → 16 ≤ l) (h4 : k = 4 → l < 16) :
    String.utf8EncodeChar (Char.ofNat (((k * 64 + l) * 64 + m) * 64 + n)) =
      [UInt8.ofNat (k + 240), UInt8.ofNat (l + 128), UInt8.ofNat (m + 128),
        UInt8.ofNat (n + 128)] := by
  have hc : (((k * 64 + l) * 64 + m) * 64 + n).isValidChar := by
    unfold Nat.isValidChar
    omega
  have hv := val_ofNat hc
  have h0 : (((k * 64 + l) * 64 + m) * 64 + n) / 262144 % 8 = k := by omega
  have h1 : (((k * 64 + l) * 64 + m) * 64 + n) / 4096 % 64 = l := by omega
  have h2 : (((k * 64 + l) * 64 + m) * 64 + n) / 64 % 64 = m := by omega
  have h3 : (((k * 64 + l) * 64 + m) * 64 + n) % 64 = n := by omega
  unfold String.utf8EncodeChar
  dsimp only
  rw [hv, if_neg (by omega), if_neg (by omega), if_neg (by omega), h0, h1, h2, h3]

theorem start_junk : ∀ k < 256, 128 ≤ k ∧ k < 194 ∨ 245 ≤ k →
    start (UInt8.ofNat k) = ([none], between) := by decide +kernel

/-- A first byte is junk, a character by itself, or the beginning of two, three or four bytes. -/
theorem start_cases (b : UInt8) :
    start b = ([none], between) ∨ (∃ k < 128, b = UInt8.ofNat k) ∨
      (∃ k, 2 ≤ k ∧ k < 32 ∧ b = UInt8.ofNat (k + 192)) ∨
      (∃ k < 16, b = UInt8.ofNat (k + 224)) ∨ ∃ k < 5, b = UInt8.ofNat (k + 240) := by
  have hb : b = UInt8.ofNat b.toNat := UInt8.ofNat_toNat.symm
  have hlt : b.toNat < 256 := b.toNat_lt
  generalize b.toNat = v at hb hlt
  subst hb
  by_cases hj : 128 ≤ v ∧ v < 194 ∨ 245 ≤ v
  · exact .inl (start_junk v hlt hj)
  by_cases h1 : v < 128
  · exact .inr (.inl ⟨v, h1, rfl⟩)
  by_cases h2 : v < 224
  · exact .inr (.inr (.inl ⟨v - 192, by omega, by omega, congrArg UInt8.ofNat (by omega)⟩))
  by_cases h3 : v < 240
  · exact .inr (.inr (.inr (.inl ⟨v - 224, by omega, congrArg UInt8.ofNat (by omega)⟩)))
  exact .inr (.inr (.inr (.inr ⟨v - 240, by omega, congrArg UInt8.ofNat (by omega)⟩)))

theorem exists_of_scan_inside {more value : Nat} {lo hi : UInt8} {encoded : Bytes} {c : Char}
    {pieces : List (Option Char)} (hl : 128 ≤ lo.toNat) (hh : hi.toNat < 192)
    (h : (inside more lo hi value).scan encoded = some c :: pieces) :
    ∃ n rest, encoded = UInt8.ofNat (n + 128) :: rest ∧ n < 64 ∧ lo.toNat ≤ n + 128 ∧
      n + 128 ≤ hi.toNat := by
  cases encoded with
  | nil => cases h
  | cons b rest =>
    by_cases hb : lo ≤ b ∧ b ≤ hi
    · obtain ⟨h0, h1⟩ := hb
      rw [UInt8.le_iff_toNat_le] at h0 h1
      have he : b.toNat - 128 + 128 = b.toNat := by omega
      refine ⟨b.toNat - 128, rest, ?_, by omega, by omega, by omega⟩
      rw [he, UInt8.ofNat_toNat]
    · have hf : (feed (inside more lo hi value) b).1 = none :: (start b).1 := by
        unfold feed
        dsimp only
        rw [if_neg (by simpa using hb)]
      rw [scan, hf] at h
      cases h

/-- What is read as a character begins with the bytes of that character. -/
theorem exists_of_scan_eq_cons {encoded : Bytes} {c : Char} {pieces : List (Option Char)}
    (h : between.scan encoded = some c :: pieces) :
    ∃ rest, encoded = String.utf8EncodeChar c ++ rest ∧ between.scan rest = pieces := by
  cases encoded with
  | nil => cases h
  | cons b rest =>
    rcases start_cases b with hs | ⟨k, hk, rfl⟩ | ⟨k, hk, hk', rfl⟩ | ⟨k, hk, rfl⟩ | ⟨k, hk, rfl⟩
    · rw [scan, feed, hs] at h
      cases h
    · rw [scan, feed, start_one k hk] at h
      cases h
      rw [utf8EncodeChar_one hk]
      exact ⟨rest, rfl, rfl⟩
    · rw [scan_first _ (start_two k hk' hk)] at h
      obtain ⟨n, rest, rfl, hn, hl, hh⟩ := exists_of_scan_inside (by decide) (by decide) h
      rw [scan_last _ hn hl hh] at h
      cases h
      rw [utf8EncodeChar_two hk hk' hn]
      exact ⟨rest, rfl, rfl⟩
    · rw [scan_first _ (start_three k hk)] at h
      obtain ⟨m, rest, rfl, hm, hl, hh⟩ :=
        exists_of_scan_inside (by split <;> decide) (by split <;> decide) h
      rw [scan_next _ hm hl hh] at h
      obtain ⟨n, rest, rfl, hn, hl', hh'⟩ := exists_of_scan_inside (by decide) (by decide) h
      rw [scan_last _ hn hl' hh'] at h
      cases h
      rw [utf8EncodeChar_three hk hm hn]
      · exact ⟨rest, rfl, rfl⟩
      · rintro rfl
        simp at hl
        omega
      · rintro rfl
        simp at hh
        omega
    · rw [scan_first _ (start_four k hk)] at h
      obtain ⟨l, rest, rfl, hl, h0, h4⟩ :=
        exists_of_scan_inside (by split <;> decide) (by split <;> decide) h
      rw [scan_next _ hl h0 h4] at h
      obtain ⟨m, rest, rfl, hm, hm0, hm1⟩ := exists_of_scan_inside (by decide) (by decide) h
      rw [scan_next _ hm hm0 hm1] at h
      obtain ⟨n, rest, rfl, hn, hn0, hn1⟩ := exists_of_scan_inside (by decide) (by decide) h
      rw [scan_last _ hn hn0 hn1] at h
      cases h
      rw [utf8EncodeChar_four hk hl hm hn]
      · exact ⟨rest, rfl, rfl⟩
      · rintro rfl
        simp at h0
        omega
      · rintro rfl
        simp at h4
        omega

/-- A byte completes something, or it is followed by another byte of its character. -/
theorem feed_cases (decoder : Decoder) (b : UInt8) :
    (decoder.feed b).1 ≠ [] ∨ (decoder.feed b).2 ≠ between := by
  have hs : (start b).1 ≠ [] ∨ (start b).2 ≠ between := by
    rcases start_cases b with hs | ⟨k, hk, rfl⟩ | ⟨k, hk, hk', rfl⟩ | ⟨k, hk, rfl⟩ | ⟨k, hk, rfl⟩
    · rw [hs]
      exact .inl (List.cons_ne_nil _ _)
    · rw [start_one k hk]
      exact .inl (List.cons_ne_nil _ _)
    · rw [start_two k hk' hk]
      exact .inr nofun
    · rw [start_three k hk]
      exact .inr nofun
    · rw [start_four k hk]
      exact .inr nofun
  cases decoder with
  | between => exact hs
  | inside more lo hi value =>
    unfold feed
    dsimp only
    split
    · cases more with
      | zero => exact .inl (List.cons_ne_nil _ _)
      | succ more => exact .inr nofun
    · exact .inl (List.cons_ne_nil _ _)

theorem scan_ne_nil {decoder : Decoder} {encoded : Bytes}
    (h : encoded ≠ [] ∨ decoder ≠ between) : decoder.scan encoded ≠ [] := by
  induction encoded generalizing decoder with
  | nil =>
    cases decoder with
    | between => simp at h
    | inside more lo hi value => exact List.cons_ne_nil _ _
  | cons b rest ih =>
    rw [scan]
    rcases feed_cases decoder b with hf | hf
    · exact List.append_ne_nil_of_left_ne_nil hf _
    · exact List.append_ne_nil_of_right_ne_nil _ (ih (.inr hf))

end Decoder

theorem decode_utf8 (text : Text) : decode text.utf8 = some text := by
  have hs : Decoder.between.scan text.utf8 = text.map some := by
    induction text with
    | nil => rfl
    | cons c rest ih => rw [utf8_cons, Decoder.scan_utf8EncodeChar, ih, List.map_cons]
  have hm : (text.map some).mapM id = some text := by
    rw [List.mapM_map]
    exact List.mapM_pure.trans (congrArg some (List.map_id text))
  rw [decode, hs, hm]

theorem mapM_id_eq_some {α : Type} {pieces : List (Option α)} {all : List α}
    (h : pieces.mapM id = some all) : pieces = all.map some := by
  induction pieces generalizing all with
  | nil =>
    cases h
    rfl
  | cons piece pieces ih =>
    simp only [List.mapM_cons, Option.bind_eq_bind, Option.bind_eq_some_iff] at h
    obtain ⟨a, ha, rest, hr, h⟩ := h
    cases ha
    cases h
    rw [ih hr, List.map_cons]

/-- No bytes but its own are read as a text. -/
theorem decode_eq_some_iff {encoded : Bytes} {text : Text} :
    decode encoded = some text ↔ encoded = text.utf8 := by
  constructor
  · intro h
    have hs : Decoder.between.scan encoded = text.map some := mapM_id_eq_some h
    clear h
    induction text generalizing encoded with
    | nil =>
      cases encoded with
      | nil => rfl
      | cons b rest => exact absurd hs (Decoder.scan_ne_nil (.inl (List.cons_ne_nil b rest)))
    | cons c text ih =>
      obtain ⟨rest, rfl, hr⟩ := Decoder.exists_of_scan_eq_cons hs
      rw [ih hr, utf8_cons]
  · rintro rfl
    exact decode_utf8 text

theorem mapM_decode_utf8 (texts : List Text) : (texts.map utf8).mapM decode = some texts := by
  have hd : decode ∘ utf8 = pure := funext decode_utf8
  rw [List.mapM_map, hd]
  exact List.mapM_pure.trans (congrArg some (List.map_id texts))

end LineShell.Text
