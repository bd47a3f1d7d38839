import LineShell.Config
import LineShell.Proofs.Text.Trim

/-!
# The grammar of a configuration

What the lines of a configuration may be, apart from how they are read. A line is `Idle`, or it
`Sets` something, or it is `Faulty`; `Setting.ofLine?` tells these apart, and no line is two of them
(`ofLine?_of_idle`, `ofLine?_of_sets`, `ofLine?_of_faulty`).

A configuration has a setting for each of its keys. It is the one of the last line with the key
(`LastOf`), provided that no line is faulty; if one is, the first of them is reported
(`Config.ofText_grammar`).
-/

namespace LineShell

/-- What a configuration has a setting for. -/
inductive Config.Key where
  | prompt
  | farewell
  | expandCapacity
  | varNameMax
  | maxTokens
  deriving DecidableEq, Repr

namespace Config.Key

def name : Key → Text
  | prompt => "prompt".toList
  | farewell => "farewell".toList
  | expandCapacity => "expand_capacity".toList
  | varNameMax => "var_name_max".toList
  | maxTokens => "max_tokens".toList

theorem name_injective {key other : Key} (h : key.name = other.name) : key = other := by
  revert h
  cases key <;> cases other <;> decide

theorem exists_name_eq_cons (key : Key) : ∃ c rest, key.name = c :: rest ∧ c ≠ '#' := by
  cases key <;> exact ⟨_, _, rfl, by decide⟩

end Config.Key

namespace Setting

def key : Setting → Config.Key
  | prompt _ => .prompt
  | farewell _ => .farewell
  | expandCapacity _ => .expandCapacity
  | varNameMax _ => .varNameMax
  | maxTokens _ => .maxTokens

/-! ## Limits -/

/-- One or more ASCII digits stand for the number. -/
structure Digits (digits : Text) (n : Nat) : Prop where
  ne_nil : digits ≠ []
  ascii : ∀ c ∈ digits, c.isDigit = true
  value : Nat.ofDigitChars 10 digits 0 = n

/-- Digits with at most one plus sign before them. -/
inductive Numeral : Text → Nat → Prop where
  | plain {digits : Text} {n : Nat} : Digits digits n → Numeral digits n
  | plus {digits : Text} {n : Nat} : Digits digits n → Numeral ('+' :: digits) n

/-- The text writes the limit, with blanks around it. A limit is one of the numbers of 64 bits
without sign, other than zero. -/
structure Limit (value : Text) (limit : Nat) : Prop where
  written : ∃ core, Text.Trims value core ∧ Numeral core limit
  pos : 1 ≤ limit
  lt : limit < UInt64.size

theorem digitsValue_eq_some_iff {value n : Nat} {digits : Text} :
    digitsValue value digits = some n ↔
      (∀ c ∈ digits, c.isDigit = true) ∧ Nat.ofDigitChars 10 digits value = n := by
  induction digits generalizing value with
  | nil => simp [digitsValue]
  | cons c rest ih =>
    have hd : ('0' ≤ c && c ≤ '9') = c.isDigit := rfl
    rw [digitsValue, hd, List.forall_mem_cons, Nat.ofDigitChars_cons, Nat.mul_comm 10]
    by_cases hc : c.isDigit = true
    · rw [if_pos hc, ih]
      simp [hc]
    · rw [if_neg hc]
      simp [hc]

theorem digits_iff {digits : Text} {n : Nat} :
    (if digits.isEmpty then none else (digitsValue 0 digits).filter (· < UInt64.size)) = some n ↔
      Digits digits n ∧ n < UInt64.size := by
  by_cases hd : digits = []
  · rw [if_pos (List.isEmpty_iff.2 hd)]
    constructor
    · intro h
      cases h
    · rintro ⟨h, -⟩
      exact absurd hd h.ne_nil
  · rw [if_neg (mt List.isEmpty_iff.1 hd), Option.filter_eq_some_iff, digitsValue_eq_some_iff,
      decide_eq_true_iff]
    constructor
    · rintro ⟨⟨ha, hv⟩, hlt⟩
      exact ⟨⟨hd, ha, hv⟩, hlt⟩
    · rintro ⟨⟨_, ha, hv⟩, hlt⟩
      exact ⟨⟨ha, hv⟩, hlt⟩

theorem size?_eq_some_iff {text : Text} {n : Nat} :
    size? text = some n ↔ Numeral text n ∧ n < UInt64.size := by
  unfold size?
  split
  · rename_i rest
    rw [digits_iff]
    constructor
    · rintro ⟨hd, hlt⟩
      exact ⟨.plus hd, hlt⟩
    · rintro ⟨hn, hlt⟩
      cases hn with
      | plain hd => exact absurd (hd.ascii '+' List.mem_cons_self) (by decide)
      | plus hd => exact ⟨hd, hlt⟩
  · rename_i hplus
    rw [digits_iff]
    constructor
    · rintro ⟨hd, hlt⟩
      exact ⟨.plain hd, hlt⟩
    · rintro ⟨hn, hlt⟩
      cases hn with
      | plain hd => exact ⟨hd, hlt⟩
      | plus hd => exact (hplus _ rfl).elim

theorem limit?_eq_some_iff {value : Text} {limit : Nat} :
    limit? value = some limit ↔ Limit value limit := by
  rw [limit?, Option.filter_eq_some_iff, size?_eq_some_iff, decide_eq_true_iff]
  constructor
  · rintro ⟨⟨hn, hlt⟩, hpos⟩
    exact ⟨⟨_, Text.trims_trim value, hn⟩, hpos, hlt⟩
  · rintro ⟨⟨core, ht, hn⟩, hpos, hlt⟩
    rw [ht.trim_eq]
    exact ⟨⟨hn, hlt⟩, hpos⟩

/-- The value stands in a line for the setting. The two texts are taken as they are. -/
def WrittenAs : Setting → Text → Prop
  | prompt text, value => text = value
  | farewell text, value => text = value
  | expandCapacity limit, value => Limit value limit
  | varNameMax limit, value => Limit value limit
  | maxTokens limit, value => Limit value limit

/-- A limit, if the setting is one, leaves room for something. -/
def Positive : Setting → Prop
  | prompt _ | farewell _ => True
  | expandCapacity limit | varNameMax limit | maxTokens limit => 1 ≤ limit

theorem WrittenAs.positive {setting : Setting} {value : Text} (h : setting.WrittenAs value) :
    setting.Positive := by
  cases setting with
  | prompt | farewell => trivial
  | expandCapacity | varNameMax | maxTokens => exact h.pos

/-- The setting for which the value stands in a line with the key. -/
def ofValue? (value : Text) : Config.Key → Option Setting
  | .prompt => some (.prompt value)
  | .farewell => some (.farewell value)
  | .expandCapacity => (limit? value).map .expandCapacity
  | .varNameMax => (limit? value).map .varNameMax
  | .maxTokens => (limit? value).map .maxTokens

theorem ofValue?_eq_some_iff {value : Text} {key : Config.Key} {setting : Setting} :
    ofValue? value key = some setting ↔ setting.key = key ∧ setting.WrittenAs value := by
  constructor
  · intro h
    cases key with
    | prompt | farewell =>
      cases h
      exact ⟨rfl, rfl⟩
    | expandCapacity | varNameMax | maxTokens =>
      obtain ⟨limit, hl, rfl⟩ := Option.map_eq_some_iff.1 h
      exact ⟨rfl, limit?_eq_some_iff.1 hl⟩
  · rintro ⟨rfl, hw⟩
    cases setting with
    | prompt text | farewell text =>
      cases hw
      rfl
    | expandCapacity limit | varNameMax limit | maxTokens limit =>
      exact Option.map_eq_some_iff.2 ⟨limit, limit?_eq_some_iff.2 hw, rfl⟩

/-! ## Lines -/

/-- A line that says nothing is blank or a comment. -/
def Idle (line : Text) : Prop :=
  (∀ c ∈ line, Text.isBlank c = true) ∨ line.head? = some '#'

/-- Before the first equals sign the line has the name, with blanks around it, and after it the
value. -/
def Pairs (line name value : Text) : Prop :=
  ∃ left, line = left ++ '=' :: value ∧ '=' ∉ left ∧ Text.Trims left name

def HasKey (line : Text) (key : Config.Key) : Prop := ∃ value, Pairs line key.name value

def Sets (line : Text) (setting : Setting) : Prop :=
  ∃ value, Pairs line setting.key.name value ∧ setting.WrittenAs value

def WellFormed (line : Text) : Prop := Idle line ∨ ∃ setting, Sets line setting

/-- What is wrong with a line, and with which part of it. -/
inductive Faulty (line : Text) : LineFault → Prop where
  | noEquals : ¬ Idle line → '=' ∉ line → Faulty line (.noEquals line)
  | unknownKey {name value : Text} : ¬ Idle line → Pairs line name value →
      (∀ key : Config.Key, key.name ≠ name) → Faulty line (.unknownKey name)
  | invalidLimit {key : Config.Key} {value : Text} : Pairs line key.name value →
      (∀ setting : Setting, setting.key = key → ¬ setting.WrittenAs value) →
      Faulty line (.invalidLimit line)

theorem pairs_iff {line name value : Text} :
    Pairs line name value ↔
      ∃ left, cutAt '=' line = some (left, value) ∧ Text.trim left = name := by
  constructor
  · rintro ⟨left, rfl, hl, ht⟩
    exact ⟨left, cutAt_append value hl, ht.trim_eq⟩
  · rintro ⟨left, hc, rfl⟩
    obtain ⟨hs, hl⟩ := cutAt_eq_some hc
    exact ⟨left, hs, hl, Text.trims_trim left⟩

theorem Pairs.unique {line name value name' value' : Text} (h : Pairs line name value)
    (h' : Pairs line name' value') : name = name' ∧ value = value' := by
  obtain ⟨left, hc, rfl⟩ := pairs_iff.1 h
  obtain ⟨left', hc', rfl⟩ := pairs_iff.1 h'
  rw [hc] at hc'
  cases hc'
  exact ⟨rfl, rfl⟩

theorem HasKey.not_idle {line : Text} {key : Config.Key} (h : HasKey line key) : ¬ Idle line := by
  obtain ⟨value, left, rfl, -, ⟨⟨before, after, rfl, hb, -⟩, -, -⟩⟩ := h
  rintro (hall | hh)
  · have he := hall '=' (by simp)
    exact absurd he (by decide)
  · obtain ⟨c, rest, hn, hc⟩ := key.exists_name_eq_cons
    cases before with
    | nil =>
      rw [hn] at hh
      exact hc (Option.some.inj hh)
    | cons b before =>
      cases hh
      exact absurd (hb '#' (by simp)) (by decide)

theorem idle_or_sets_or_faulty (line : Text) :
    Idle line ∨ (∃ setting, Sets line setting) ∨ ∃ fault, Faulty line fault := by
  by_cases hi : Idle line
  · exact .inl hi
  · refine .inr ?_
    cases hc : cutAt '=' line with
    | none => exact .inr ⟨_, .noEquals hi (cutAt_eq_none_iff.1 hc)⟩
    | some parts =>
      obtain ⟨left, value⟩ := parts
      have ha : Pairs line (Text.trim left) value := pairs_iff.2 ⟨left, hc, rfl⟩
      by_cases hk : ∃ key : Config.Key, key.name = Text.trim left
      · obtain ⟨key, hk⟩ := hk
        rw [← hk] at ha
        cases hv : ofValue? value key with
        | none =>
          refine .inr ⟨_, .invalidLimit ha ?_⟩
          intro setting hs hw
          rw [ofValue?_eq_some_iff.2 ⟨hs, hw⟩] at hv
          cases hv
        | some setting =>
          obtain ⟨rfl, hw⟩ := ofValue?_eq_some_iff.1 hv
          exact .inl ⟨setting, value, ha, hw⟩
      · exact .inr ⟨_, .unknownKey hi ha (not_exists.1 hk)⟩

/-! ## Reading a line -/

theorem isEmpty_trim_or_head_iff {line : Text} :
    ((Text.trim line).isEmpty || decide (line.head? = some '#')) = true ↔ Idle line := by
  rw [Bool.or_eq_true, List.isEmpty_iff, Text.trim_eq_nil_iff, decide_eq_true_iff]
  rfl

theorem ofLine?_of_idle {line : Text} (h : Idle line) : ofLine? line = .ok none := by
  unfold ofLine?
  rw [if_pos (isEmpty_trim_or_head_iff.2 h)]

theorem ofLine?_of_hasKey {line value : Text} {key : Config.Key}
    (h : Pairs line key.name value) :
    ofLine? line =
      match ofValue? value key with
      | some setting => .ok (some setting)
      | none => .error (.invalidLimit line) := by
  have hi : ¬ Idle line := HasKey.not_idle ⟨value, h⟩
  obtain ⟨left, hc, ht⟩ := pairs_iff.1 h
  unfold ofLine?
  rw [if_neg (mt isEmpty_trim_or_head_iff.1 hi), hc]
  dsimp only
  rw [ht]
  unfold ofValue?
  generalize limit? value = limit
  -- the names are literals, and so are compared by evaluation
  cases limit <;> cases key <;> rfl

theorem ofLine?_of_sets {line : Text} {setting : Setting} (h : Sets line setting) :
    ofLine? line = .ok (some setting) := by
  obtain ⟨value, ha, hw⟩ := h
  rw [ofLine?_of_hasKey ha, ofValue?_eq_some_iff.2 ⟨rfl, hw⟩]

theorem ofLine?_of_faulty {line : Text} {fault : LineFault} (h : Faulty line fault) :
    ofLine? line = .error fault := by
  cases h with
  | noEquals hi he =>
    unfold ofLine?
    rw [if_neg (mt isEmpty_trim_or_head_iff.1 hi), cutAt_eq_none_iff.2 he]
  | unknownKey hi ha hk =>
    obtain ⟨left, hc, rfl⟩ := pairs_iff.1 ha
    unfold ofLine?
    rw [if_neg (mt isEmpty_trim_or_head_iff.1 hi), hc]
    dsimp only
    exact (if_neg (hk .prompt).symm).trans <| (if_neg (hk .farewell).symm).trans <|
      (if_neg (hk .expandCapacity).symm).trans <| (if_neg (hk .varNameMax).symm).trans <|
      if_neg (hk .maxTokens).symm
  | invalidLimit ha hs =>
    rename_i key value
    rw [ofLine?_of_hasKey ha]
    cases hv : ofValue? value key with
    | none => rfl
    | some setting =>
      obtain ⟨hk, hw⟩ := ofValue?_eq_some_iff.1 hv
      exact absurd hw (hs setting hk)

end Setting

/-! ## Settings -/

namespace Config

open Setting

def setting (config : Config) : Key → Setting
  | .prompt => .prompt config.prompt
  | .farewell => .farewell config.farewell
  | .expandCapacity => .expandCapacity config.expandCapacity
  | .varNameMax => .varNameMax config.varNameMax
  | .maxTokens => .maxTokens config.maxTokens

theorem setting_apply (config : Config) (setting : Setting) (key : Key) :
    (config.apply setting).setting key =
      if setting.key = key then setting else config.setting key := by
  cases setting <;> cases key <;> rfl

/-- The setting of the last line with the key, or the one from before if no line has the key. -/
inductive LastOf (lines : List Text) (key : Key) (initial : Setting) : Setting → Prop where
  | set (before after : List Text) {line : Text} {setting : Setting} :
      lines = before ++ line :: after → Sets line setting → setting.key = key →
      (∀ later ∈ after, ¬ HasKey later key) → LastOf lines key initial setting
  | unset : (∀ line ∈ lines, ¬ HasKey line key) → LastOf lines key initial initial

namespace LastOf

variable {lines : List Text} {line : Text} {key : Key} {initial setting last : Setting}

theorem cons_of_not_hasKey (h : LastOf lines key initial last) (hl : ¬ HasKey line key) :
    LastOf (line :: lines) key initial last := by
  cases h with
  | set before after he hs hk hlater =>
    exact .set (line :: before) after (congrArg (line :: ·) he) hs hk hlater
  | unset hn => exact .unset (List.forall_mem_cons.2 ⟨hl, hn⟩)

theorem cons_of_sets (h : LastOf lines key setting last) (hs : Sets line setting)
    (hk : setting.key = key) : LastOf (line :: lines) key initial last := by
  cases h with
  | set before after he hs' hk' hlater =>
    exact .set (line :: before) after (congrArg (line :: ·) he) hs' hk' hlater
  | unset hn => exact .set [] lines rfl hs hk hn

theorem positive (h : LastOf lines key initial last) (hi : initial.Positive) : last.Positive := by
  cases h with
  | set before after he hs hk hlater =>
    obtain ⟨value, -, hw⟩ := hs
    exact hw.positive
  | unset hn => exact hi

end LastOf

/-! ## Reading all lines -/

theorem ofLines_cons_of_wellFormed {line : Text} (number : Nat) (config : Config)
    (h : WellFormed line) : ∃ next : Config,
      (∀ rest, ofLines number config (line :: rest) = ofLines (number + 1) next rest) ∧
      ∀ rest key last, LastOf rest key (next.setting key) last →
        LastOf (line :: rest) key (config.setting key) last := by
  rcases h with hi | ⟨setting, hs⟩
  · refine ⟨config, ?_, ?_⟩
    · intro rest
      rw [ofLines, ofLine?_of_idle hi]
    · intro rest key last hl
      exact hl.cons_of_not_hasKey fun hk => hk.not_idle hi
  · refine ⟨config.apply setting, ?_, ?_⟩
    · intro rest
      rw [ofLines, ofLine?_of_sets hs]
    · intro rest key last hl
      rw [setting_apply] at hl
      by_cases hk : setting.key = key
      · rw [if_pos hk] at hl
        exact hl.cons_of_sets hs hk
      · rw [if_neg hk] at hl
        refine hl.cons_of_not_hasKey ?_
        rintro ⟨value, hp⟩
        obtain ⟨value', hp', -⟩ := hs
        exact hk (Key.name_injective (hp'.unique hp).1)

theorem ofLines_cons_of_faulty {line : Text} {fault : LineFault} (number : Nat) (config : Config)
    (rest : List Text) (h : Faulty line fault) :
    ofLines number config (line :: rest) = .error (.malformed number fault) := by
  rw [ofLines, ofLine?_of_faulty h]

theorem wellFormed_or_faulty (line : Text) : WellFormed line ∨ ∃ fault, Faulty line fault := by
  rcases idle_or_sets_or_faulty line with hi | hs | hf
  · exact .inl (.inl hi)
  · exact .inl (.inr hs)
  · exact .inr hf

theorem ofLines_of_wellFormed {lines : List Text} (number : Nat) (config : Config)
    (h : ∀ line ∈ lines, WellFormed line) : ∃ result, ofLines number config lines = .ok result ∧
      ∀ key, LastOf lines key (config.setting key) (result.setting key) := by
  induction lines generalizing number config with
  | nil =>
    refine ⟨config, rfl, fun key => .unset ?_⟩
    simp
  | cons line rest ih =>
    rw [List.forall_mem_cons] at h
    obtain ⟨next, hn, hl⟩ := ofLines_cons_of_wellFormed number config h.1
    obtain ⟨result, hr, hk⟩ := ih (number + 1) next h.2
    refine ⟨result, ?_, fun key => hl rest key _ (hk key)⟩
    rw [hn, hr]

theorem ofLines_of_faulty {before after : List Text} {line : Text} {fault : LineFault}
    (number : Nat) (config : Config) (hb : ∀ earlier ∈ before, WellFormed earlier)
    (hf : Faulty line fault) :
    ofLines number config (before ++ line :: after) =
      .error (.malformed (number + before.length) fault) := by
  induction before generalizing number config with
  | nil => exact ofLines_cons_of_faulty number config after hf
  | cons earlier before ih =>
    rw [List.forall_mem_cons] at hb
    obtain ⟨next, hn, -⟩ := ofLines_cons_of_wellFormed number config hb.1
    rw [List.cons_append, hn, ih (number + 1) next hb.2, List.length_cons]
    congr 2
    omega

/-- The line with the number, which counts from one, is the first one that is faulty. -/
def FirstFault (lines : List Text) (number : Nat) (fault : LineFault) : Prop :=
  ∃ before line after, lines = before ++ line :: after ∧ number = before.length + 1 ∧
    (∀ earlier ∈ before, WellFormed earlier) ∧ Faulty line fault

theorem wellFormed_or_firstFault (lines : List Text) :
    (∀ line ∈ lines, WellFormed line) ∨ ∃ number fault, FirstFault lines number fault := by
  induction lines with
  | nil => exact .inl (by simp)
  | cons line rest ih =>
    rcases wellFormed_or_faulty line with hw | ⟨fault, hf⟩
    · rcases ih with hr | ⟨number, fault, before, faulty, after, rfl, hn, hb, hf⟩
      · exact .inl (List.forall_mem_cons.2 ⟨hw, hr⟩)
      · exact .inr ⟨_, fault, line :: before, faulty, after, rfl, rfl,
          List.forall_mem_cons.2 ⟨hw, hb⟩, hf⟩
    · exact .inr ⟨_, fault, [], line, rest, rfl, rfl, by simp, hf⟩

/-! ## Reading a text -/

variable {text : Text}

theorem ofText_of_wellFormed (h : ∀ line ∈ lines '\n' '\r' text, WellFormed line) :
    ∃ result, ofText text = .ok result ∧ ∀ key,
      LastOf (lines '\n' '\r' text) key (({} : Config).setting key) (result.setting key) :=
  ofLines_of_wellFormed 1 {} h

theorem ofText_of_firstFault {number : Nat} {fault : LineFault}
    (h : FirstFault (lines '\n' '\r' text) number fault) :
    ofText text = .error (.malformed number fault) := by
  obtain ⟨before, line, after, hl, rfl, hb, hf⟩ := h
  rw [ofText, hl, ofLines_of_faulty 1 {} hb hf, Nat.add_comm]

theorem wellFormed_of_ofText {config : Config} (h : ofText text = .ok config) :
    ∀ line ∈ lines '\n' '\r' text, WellFormed line := by
  rcases wellFormed_or_firstFault (lines '\n' '\r' text) with hw | ⟨number, fault, hf⟩
  · exact hw
  · rw [ofText_of_firstFault hf] at h
    cases h

theorem lastOf_of_ofText {config : Config} (h : ofText text = .ok config) (key : Key) :
    LastOf (lines '\n' '\r' text) key (({} : Config).setting key) (config.setting key) := by
  obtain ⟨result, hr, hk⟩ := ofText_of_wellFormed (wellFormed_of_ofText h)
  rw [h] at hr
  cases hr
  exact hk key

theorem positive_of_ofText {config : Config} (h : ofText text = .ok config) (key : Key) :
    (config.setting key).Positive := by
  refine (lastOf_of_ofText h key).positive ?_
  cases key <;> simp [setting, Positive]

theorem ofText_eq_error_iff {cause : ConfigError} :
    ofText text = .error cause ↔ ∃ number fault,
      FirstFault (lines '\n' '\r' text) number fault ∧ cause = .malformed number fault := by
  constructor
  · intro h
    rcases wellFormed_or_firstFault (lines '\n' '\r' text) with hw | ⟨number, fault, hf⟩
    · obtain ⟨result, hr, -⟩ := ofText_of_wellFormed hw
      rw [h] at hr
      cases hr
    · rw [ofText_of_firstFault hf] at h
      cases h
      exact ⟨number, fault, hf, rfl⟩
  · rintro ⟨number, fault, hf, rfl⟩
    exact ofText_of_firstFault hf

/-- A text is taken for a configuration if all of its lines are of the grammar, and each field is
then what the last line with its key says, or the default. Else the first faulty line is named. -/
theorem ofText_grammar (text : Text) :
    ((∃ config, ofText text = .ok config) ↔ ∀ line ∈ lines '\n' '\r' text, WellFormed line) ∧
    (∀ config, ofText text = .ok config →
      (∀ key, LastOf (lines '\n' '\r' text) key (({} : Config).setting key) (config.setting key)) ∧
      1 ≤ config.expandCapacity ∧ 1 ≤ config.varNameMax ∧ 1 ≤ config.maxTokens) ∧
    ∀ cause, ofText text = .error cause ↔
      ∃ number fault, FirstFault (lines '\n' '\r' text) number fault ∧
        cause = .malformed number fault := by
  refine ⟨⟨?_, ?_⟩, ?_, ?_⟩
  · rintro ⟨config, hc⟩
    exact wellFormed_of_ofText hc
  · intro hw
    obtain ⟨config, hc, -⟩ := ofText_of_wellFormed hw
    exact ⟨config, hc⟩
  · intro config hc
    have hp := positive_of_ofText hc
    exact ⟨lastOf_of_ofText hc, hp .expandCapacity, hp .varNameMax, hp .maxTokens⟩
  · intro cause
    exact ofText_eq_error_iff

example : ofText "# the second line is blank\n\nprompt=$ \n colour = red\n".toList =
    .error (.malformed 4 (.unknownKey "colour".toList)) := rfl

end Config

end LineShell
