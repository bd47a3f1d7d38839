import LineShell.Proofs.Config.File

/-!
# Configurations that are written down

`Laid` puts lines into one text, each with a line end of either kind after it, and
`Setting.Written` says how a line gives a setting: a text as it is, and a limit in decimal. If every
line is idle or gives a setting of a configuration, and none of its settings is missing, then
reading the text gives the configuration back (`Config.ofText_written`), in whatever order the lines
stand and whatever its two texts are, as long as each is `Writable` in one line.
-/

namespace LineShell

/-- The text has these lines. After each of them stands a newline, or a carriage return and a
newline, and after the last one there may be nothing. -/
inductive Laid : List Text → Text → Prop where
  | nil : Laid [] []
  | last {line : Text} : line ≠ [] → Laid [line] line
  | newline {rest : List Text} {text : Text} (line : Text) : Laid rest text →
      Laid (line :: rest) (line ++ '\n' :: text)
  | returned {rest : List Text} {text : Text} (line : Text) : Laid rest text →
      Laid (line :: rest) (line ++ '\r' :: '\n' :: text)

/-! ## White space around a core -/

namespace Text

/-- White space in which there is no newline. -/
def Padding (text : Text) : Prop := ∀ c ∈ text, isBlank c = true ∧ c ≠ '\n'

instance (text : Text) : Decidable text.Padding := List.decidableBAll _ _

/-- The text is the core with padding around it. -/
def Pads (text core : Text) : Prop :=
  ∃ before after, text = before ++ core ++ after ∧ Padding (before ++ after)

/-- No character of the text is white space. -/
def Solid (text : Text) : Prop := ∀ c ∈ text, isBlank c = false

instance (text : Text) : Decidable text.Solid := List.decidableBAll _ _

namespace Pads

variable {text core : Text}

theorem trims (h : text.Pads core) (hc : core.Solid) : Trims text core := by
  obtain ⟨before, after, rfl, hp⟩ := h
  refine ⟨⟨before, after, rfl, fun c hm => ?_, fun c hm => ?_⟩, fun c hm => ?_, fun c hm => ?_⟩
  · exact (hp c (List.mem_append_left _ hm)).1
  · exact (hp c (List.mem_append_right _ hm)).1
  · exact hc c (List.mem_of_head? hm)
  · exact hc c (List.mem_of_getLast? hm)

theorem mem {c : Char} (h : text.Pads core) (hm : c ∈ text) :
    c ∈ core ∨ isBlank c = true ∧ c ≠ '\n' := by
  obtain ⟨before, after, rfl, hp⟩ := h
  rw [List.append_assoc, List.mem_append, List.mem_append] at hm
  rcases hm with hm | hm | hm
  · exact .inr (hp c (List.mem_append_left _ hm))
  · exact .inl hm
  · exact .inr (hp c (List.mem_append_right _ hm))

theorem newline_not_mem (h : text.Pads core) (hc : core.Solid) : '\n' ∉ text := by
  intro hm
  rcases h.mem hm with hm | ⟨-, hn⟩
  · exact absurd (hc _ hm) (by decide)
  · exact hn rfl

end Pads

theorem isBlank_of_isDigit {c : Char} (h : c.isDigit = true) : isBlank c = false := by
  have hd : 48 ≤ c.toNat ∧ c.toNat ≤ 57 := by
    simpa [Char.isDigit, UInt32.le_iff_toNat_le] using h
  simp only [isBlank, blankRanges, List.any_cons, List.any_nil, Bool.or_false, Bool.or_eq_false_iff,
    Bool.and_eq_false_iff, decide_eq_false_iff_not]
  omega

end Text

/-! ## Lines that give a setting -/

namespace Config.Key

theorem solid_name (key : Key) : key.name.Solid := by
  cases key <;> decide

theorem equals_not_mem_name (key : Key) : '=' ∉ key.name := by
  cases key <;> decide

end Config.Key

namespace Setting

/-- The value that is written for the setting: a text as it is, and a limit in decimal with white
space around it. -/
def WrittenValue : Setting → Text → Prop
  | prompt text, value | farewell text, value => value = text
  | expandCapacity limit, value | varNameMax limit, value | maxTokens limit, value =>
    value.Pads (toString limit).toList

/-- The line gives the setting: its key with white space around it, an equals sign and its value. -/
def Written (line : Text) (setting : Setting) : Prop :=
  ∃ left value, line = left ++ '=' :: value ∧ left.Pads setting.key.name ∧
    setting.WrittenValue value

/-- The setting can be written in one line and read back: a text has no line end in it or at its
end, and a limit is one of the numbers of 64 bits other than zero. -/
def Writable : Setting → Prop
  | prompt text | farewell text => '\n' ∉ text ∧ text.getLast? ≠ some '\r'
  | expandCapacity limit | varNameMax limit | maxTokens limit => 1 ≤ limit ∧ limit < UInt64.size

theorem digits_toString (n : Nat) : Digits (toString n).toList n := by
  rw [Nat.toString_eq_repr, Nat.toList_repr]
  refine ⟨List.ne_nil_of_length_pos Nat.length_toDigits_pos, fun c hc => ?_, ?_⟩
  · exact Nat.isDigit_of_mem_toDigits (by decide) (by decide) hc
  · exact Nat.ofDigitChars_ten_toDigits

theorem solid_toString (n : Nat) : Text.Solid (toString n).toList :=
  fun c hc => Text.isBlank_of_isDigit ((digits_toString n).ascii c hc)

variable {line value : Text} {setting : Setting}

theorem WrittenValue.writtenAs (h : setting.WrittenValue value) (hw : setting.Writable) :
    setting.WrittenAs value := by
  cases setting with
  | prompt | farewell => exact h.symm
  | expandCapacity limit | varNameMax limit | maxTokens limit =>
    have ht := Text.Pads.trims h (solid_toString limit)
    exact ⟨⟨_, ht, .plain (digits_toString limit)⟩, hw.1, hw.2⟩

theorem WrittenValue.newline_not_mem (h : setting.WrittenValue value) (hw : setting.Writable) :
    '\n' ∉ value := by
  cases setting with
  | prompt | farewell =>
    cases h
    exact hw.1
  | expandCapacity limit | varNameMax limit | maxTokens limit =>
    exact Text.Pads.newline_not_mem h (solid_toString limit)

theorem Written.sets (h : Written line setting) (hw : setting.Writable) : Sets line setting := by
  obtain ⟨left, value, rfl, hp, hv⟩ := h
  refine ⟨value, ⟨left, rfl, fun hm => ?_, hp.trims setting.key.solid_name⟩, hv.writtenAs hw⟩
  rcases hp.mem hm with hm | ⟨hb, -⟩
  · exact setting.key.equals_not_mem_name hm
  · exact absurd hb (by decide)

theorem Written.newline_not_mem (h : Written line setting) (hw : setting.Writable) :
    '\n' ∉ line := by
  obtain ⟨left, value, rfl, hp, hv⟩ := h
  have hl := hp.newline_not_mem setting.key.solid_name
  have hr := hv.newline_not_mem hw
  simp [hl, hr]

theorem Sets.unique {other : Setting} (h : Sets line setting) (h' : Sets line other) :
    setting = other := by
  have he := ofLine?_of_sets h
  rw [ofLine?_of_sets h'] at he
  cases he
  rfl

theorem Writable.dropReturn_eq (h : setting.Writable) : setting.dropReturn = setting := by
  cases setting with
  | prompt text => exact congrArg prompt (dropFinal_eq_self_iff.2 h.2)
  | farewell text => exact congrArg farewell (dropFinal_eq_self_iff.2 h.2)
  | expandCapacity | varNameMax | maxTokens => rfl

end Setting

namespace Config

open Setting

/-! ## Lines that give a configuration -/

/-- The lines give the configuration: there is a line for each of its settings, in any order, and
all others are idle or say the same again. -/
structure WrittenIn (config : Config) (written : List Text) : Prop where
  line_cases : ∀ line ∈ written,
    Idle line ∧ '\n' ∉ line ∨ ∃ key, Written line (config.setting key)
  exists_line : ∀ key, ∃ line ∈ written, Written line (config.setting key)

theorem key_setting (config : Config) (key : Key) : (config.setting key).key = key := by
  cases key <;> rfl

theorem ext_setting {config other : Config}
    (h : ∀ key, config.setting key = other.setting key) : config = other := by
  have hp := h .prompt
  have hf := h .farewell
  have he := h .expandCapacity
  have hv := h .varNameMax
  have hm := h .maxTokens
  cases config
  cases other
  simp_all [setting]

section
variable {config : Config} {written : List Text}

/-- A line end that belongs to the line makes no difference to what it gives. -/
theorem WrittenIn.ofLine?_dropFinal (h : config.WrittenIn written)
    (hc : ∀ key, (config.setting key).Writable) {line : Text} (hl : line ∈ written) :
    ofLine? (dropFinal '\r' line) = ofLine? line := by
  rw [Setting.ofLine?_dropFinal]
  rcases h.line_cases line hl with ⟨hi, -⟩ | ⟨key, hw⟩
  · rw [ofLine?_of_idle hi]
    rfl
  · rw [ofLine?_of_sets (hw.sets (hc key))]
    dsimp only [Option.map_some]
    rw [(hc key).dropReturn_eq]

theorem WrittenIn.newline_not_mem (h : config.WrittenIn written)
    (hc : ∀ key, (config.setting key).Writable) {line : Text} (hl : line ∈ written) :
    '\n' ∉ line := by
  rcases h.line_cases line hl with ⟨-, hn⟩ | ⟨key, hw⟩
  · exact hn
  · exact hw.newline_not_mem (hc key)

theorem WrittenIn.last_eq (h : config.WrittenIn written)
    (hc : ∀ key, (config.setting key).Writable) {key : Key} {initial last : Setting}
    (hl : LastOf written key initial last) : last = config.setting key := by
  cases hl with
  | set before after he hs hk hlater =>
    rename_i line
    have hm : line ∈ written := he ▸ List.mem_append_right _ List.mem_cons_self
    rcases h.line_cases line hm with ⟨hi, -⟩ | ⟨other, hw⟩
    · obtain ⟨value, hp, -⟩ := hs
      exact absurd hi (HasKey.not_idle ⟨value, hp⟩)
    · have hu := hs.unique (hw.sets (hc other))
      rw [← hk, hu, key_setting]
  | unset hn =>
    obtain ⟨line, hm, hw⟩ := h.exists_line key
    obtain ⟨value, hp, -⟩ := hw.sets (hc key)
    rw [key_setting] at hp
    exact absurd ⟨value, hp⟩ (hn line hm)

end

/-! ## Reading the lines back -/

theorem ofLines_cons_congr {line other : Text} {rest others : List Text} {number : Nat}
    {config : Config} (h : ofLine? line = ofLine? other)
    (hr : ∀ number config, ofLines number config rest = ofLines number config others) :
    ofLines number config (line :: rest) = ofLines number config (other :: others) := by
  rw [ofLines, ofLines, h]
  simp only [hr]

theorem ofLines_laid {written : List Text} {text : Text} (h : Laid written text)
    (hn : ∀ line ∈ written, '\n' ∉ line)
    (hd : ∀ line ∈ written, ofLine? (dropFinal '\r' line) = ofLine? line) (number : Nat)
    (config : Config) :
    ofLines number config (lines '\n' '\r' text) = ofLines number config written := by
  induction h generalizing number config with
  | nil => rfl
  | last hl =>
    rw [lines_of_not_mem (hn _ List.mem_cons_self), if_neg hl]
  | newline line h ih =>
    rw [List.forall_mem_cons] at hn hd
    rw [lines_append_cons _ hn.1]
    exact ofLines_cons_congr hd.1 (ih hn.2 hd.2)
  | @returned rest text line h ih =>
    rw [List.forall_mem_cons] at hn hd
    have hl : '\n' ∉ line ++ ['\r'] := by simp [hn.1]
    have he : line ++ '\r' :: '\n' :: text = (line ++ ['\r']) ++ '\n' :: text := by simp
    rw [he, lines_append_cons _ hl, dropFinal_concat, if_pos rfl]
    exact ofLines_cons_congr rfl (ih hn.2 hd.2)

/-- **A configuration survives being written and read back.** Its settings stand in lines of their
own, in any order and with white space around keys and limits, and idle lines may stand anywhere.
Nothing but a newline, or a carriage return at its end, keeps a text from being read as it is. -/
theorem ofText_written {config : Config} {written : List Text} {text : Text}
    (hc : ∀ key, (config.setting key).Writable) (hw : config.WrittenIn written)
    (ht : Laid written text) : ofText text = .ok config := by
  have hl : ofText text = ofLines 1 {} written :=
    ofLines_laid ht (fun _ hm => hw.newline_not_mem hc hm)
      (fun _ hm => hw.ofLine?_dropFinal hc hm) 1 {}
  have hg : ∀ line ∈ written, WellFormed line := by
    intro line hm
    refine (hw.line_cases line hm).imp And.left ?_
    rintro ⟨key, hk⟩
    exact ⟨_, hk.sets (hc key)⟩
  obtain ⟨result, hr, hk⟩ := ofLines_of_wellFormed 1 {} hg
  rw [hl, hr, ext_setting fun key => hw.last_eq hc (hk key)]

/-- The least and the largest limit, a prompt that looks like a comment and like a setting, an empty
farewell, a carriage return as white space, and no newline at the end. -/
theorem ofText_written_edges :
    let config : Config := ⟨" #max_tokens=2 ".toList, [], 1, 18446744073709551615, 10⟩
    let comment : Text := "#prompt=".toList
    let blank : Text := " \u00a0".toList
    let prompt : Text := "prompt= #max_tokens=2 ".toList
    let farewell : Text := "farewell=".toList
    let capacity : Text := "expand_capacity=1".toList
    let nameMax : Text := "\rvar_name_max".toList ++ '=' :: "18446744073709551615\u2003".toList
    let tokens : Text := "max_tokens\t= 10\r".toList
    let written := [comment, tokens, prompt, blank, farewell, nameMax, capacity]
    let text : Text := comment ++ '\r' :: '\n' :: (tokens ++ '\n' :: (prompt ++ '\n' ::
      (blank ++ '\r' :: '\n' :: (farewell ++ '\n' :: (nameMax ++ '\n' :: capacity)))))
    ((∀ key, (config.setting key).Writable) ∧ config.WrittenIn written ∧ Laid written text) ∧
      ofText text = .ok config := by
  intro config comment blank prompt farewell capacity nameMax tokens written text
  have hc : ∀ key, (config.setting key).Writable := by
    intro key
    cases key <;> exact ⟨by decide, by decide⟩
  have hp : Written prompt (config.setting .prompt) :=
    ⟨"prompt".toList, " #max_tokens=2 ".toList, rfl, ⟨[], [], rfl, by decide⟩, rfl⟩
  have hf : Written farewell (config.setting .farewell) :=
    ⟨"farewell".toList, [], rfl, ⟨[], [], rfl, by decide⟩, rfl⟩
  have he : Written capacity (config.setting .expandCapacity) :=
    ⟨"expand_capacity".toList, "1".toList, rfl, ⟨[], [], rfl, by decide⟩,
      [], [], by decide, by decide⟩
  have hv : Written nameMax (config.setting .varNameMax) :=
    ⟨"\rvar_name_max".toList, "18446744073709551615\u2003".toList, rfl,
      ⟨['\r'], [], rfl, by decide⟩, [], ['\u2003'], by decide, by decide⟩
  have hm : Written tokens (config.setting .maxTokens) :=
    ⟨"max_tokens\t".toList, " 10\r".toList, rfl, ⟨[], ['\t'], rfl, by decide⟩,
      [' '], ['\r'], by decide, by decide⟩
  have hw : config.WrittenIn written := by
    refine ⟨?_, ?_⟩
    · intro line hl
      simp only [written, List.mem_cons, List.not_mem_nil, or_false] at hl
      rcases hl with rfl | rfl | rfl | rfl | rfl | rfl | rfl
      · exact .inl ⟨.inr rfl, by decide⟩
      · exact .inr ⟨_, hm⟩
      · exact .inr ⟨_, hp⟩
      · exact .inl ⟨.inl (List.all_eq_true.1 (by decide)), by decide⟩
      · exact .inr ⟨_, hf⟩
      · exact .inr ⟨_, hv⟩
      · exact .inr ⟨_, he⟩
    · intro key
      cases key
      · exact ⟨prompt, by simp [written], hp⟩
      · exact ⟨farewell, by simp [written], hf⟩
      · exact ⟨capacity, by simp [written], he⟩
      · exact ⟨nameMax, by simp [written], hv⟩
      · exact ⟨tokens, by simp [written], hm⟩
  have ht : Laid written text :=
    .returned _ (.newline _ (.newline _ (.returned _ (.newline _ (.newline _
      (.last (by decide)))))))
  exact ⟨⟨hc, hw, ht⟩, ofText_written hc hw ht⟩

end Config

end LineShell
