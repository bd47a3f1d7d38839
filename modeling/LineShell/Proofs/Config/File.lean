import LineShell.Cli
import LineShell.Proofs.Config.Grammar

/-!
# A configuration in a file

A file is read line by line, and its lines are then put together and taken apart again as one text.
So a line loses the carriage return at its end twice: `Cli.readConfig_utf8` says what a file with
the bytes of a text gives, compared with the text itself. The two agree unless a text of the result
ends in a carriage return.
-/

namespace LineShell

variable {line name value : Text}

/-! ## One line -/

namespace Setting

def dropReturn : Setting → Setting
  | prompt text => prompt (dropFinal '\r' text)
  | farewell text => farewell (dropFinal '\r' text)
  | setting => setting

theorem idle_dropFinal : Idle (dropFinal '\r' line) ↔ Idle line := by
  unfold Idle
  rw [← Text.trim_eq_nil_iff, Text.trim_dropFinal, Text.trim_eq_nil_iff]
  have hh : (dropFinal '\r' line).head? = some '#' ↔ line.head? = some '#' := by
    rcases eq_dropFinal_or '\r' line with h | h
    · rw [← h]
    · generalize dropFinal '\r' line = front at h
      subst h
      cases front <;> simp
  rw [hh]

theorem Pairs.dropFinal (h : Pairs line name value) :
    Pairs (dropFinal '\r' line) name (dropFinal '\r' value) := by
  obtain ⟨left, rfl, hl, ht⟩ := h
  exact ⟨left, dropFinal_append_cons (by decide), hl, ht⟩

theorem limit?_dropFinal : limit? (dropFinal '\r' value) = limit? value := by
  rw [limit?, limit?, Text.trim_dropFinal]

theorem ofValue?_dropFinal (key : Config.Key) :
    ofValue? (dropFinal '\r' value) key = (ofValue? value key).map dropReturn := by
  cases key with
  | prompt | farewell => rfl
  | expandCapacity | varNameMax | maxTokens =>
    rw [ofValue?, ofValue?, limit?_dropFinal]
    cases limit? value <;> rfl

end Setting

namespace LineFault

def dropReturn : LineFault → LineFault
  | noEquals line => noEquals (dropFinal '\r' line)
  | unknownKey key => unknownKey key
  | invalidLimit line => invalidLimit (dropFinal '\r' line)

end LineFault

open Setting

theorem Setting.ofLine?_dropFinal (line : Text) :
    ofLine? (dropFinal '\r' line) =
      match ofLine? line with
      | .ok setting => .ok (setting.map dropReturn)
      | .error fault => .error fault.dropReturn := by
  rcases idle_or_sets_or_faulty line with hi | ⟨setting, value, hp, hw⟩ | ⟨fault, hf⟩
  · rw [ofLine?_of_idle hi, ofLine?_of_idle (idle_dropFinal.2 hi)]
    rfl
  · rw [ofLine?_of_hasKey hp, ofLine?_of_hasKey hp.dropFinal, ofValue?_dropFinal]
    cases ofValue? value setting.key <;> rfl
  · cases hf with
    | noEquals hi he =>
      have hd : '=' ∉ dropFinal '\r' line := mt mem_dropFinal he
      rw [ofLine?_of_faulty (.noEquals hi he),
        ofLine?_of_faulty (.noEquals (mt idle_dropFinal.1 hi) hd)]
      rfl
    | unknownKey hi hp hk =>
      rw [ofLine?_of_faulty (.unknownKey hi hp hk),
        ofLine?_of_faulty (.unknownKey (mt idle_dropFinal.1 hi) hp.dropFinal hk)]
      rfl
    | invalidLimit hp hs =>
      rename_i key value
      rw [ofLine?_of_hasKey hp, ofLine?_of_hasKey hp.dropFinal, ofValue?_dropFinal]
      cases ofValue? value key <;> rfl

/-! ## All lines -/

namespace Config

def dropReturns (config : Config) : Config :=
  { config with prompt := dropFinal '\r' config.prompt, farewell := dropFinal '\r' config.farewell }

theorem apply_dropReturn (config : Config) (setting : Setting) :
    config.dropReturns.apply setting.dropReturn = (config.apply setting).dropReturns := by
  cases setting <;> rfl

end Config

namespace ConfigError

def dropReturn : ConfigError → ConfigError
  | unreadable fault => unreadable fault
  | malformed number fault => malformed number fault.dropReturn

end ConfigError

namespace Config

/-- The result without a carriage return at the end of its texts. -/
def withoutReturns : Except ConfigError Config → Except ConfigError Config
  | .ok config => .ok config.dropReturns
  | .error cause => .error cause.dropReturn

theorem ofLines_map_dropFinal (number : Nat) (config : Config) (lines : List Text) :
    ofLines number config.dropReturns (lines.map (dropFinal '\r')) =
      withoutReturns (ofLines number config lines) := by
  induction lines generalizing number config with
  | nil => rfl
  | cons line rest ih =>
    rw [List.map_cons, ofLines, ofLines, ofLine?_dropFinal]
    rcases ofLine? line with fault | _ | setting
    · rfl
    · exact ih (number + 1) config
    · dsimp only [Option.map_some]
      rw [apply_dropReturn]
      exact ih (number + 1) (config.apply setting)

theorem ofFile_utf8 (text : Text) : ofFile text.utf8 = withoutReturns (ofText text) := by
  have hn : ∀ line ∈ lines '\n' '\r' text, '\n' ∉ line := fun line h => not_mem_of_mem_lines h
  rw [ofFile, Text.lines_utf8, Text.mapM_decode_utf8]
  dsimp only
  rw [ofText, lines_flatMap hn]
  exact ofLines_map_dropFinal 1 {} (lines '\n' '\r' text)

/-- No text of the result ends in a carriage return. -/
def ReturnFree : Except ConfigError Config → Prop
  | .ok config => config.prompt.getLast? ≠ some '\r' ∧ config.farewell.getLast? ≠ some '\r'
  | .error (.malformed _ (.noEquals line)) => line.getLast? ≠ some '\r'
  | .error (.malformed _ (.invalidLimit line)) => line.getLast? ≠ some '\r'
  | .error _ => True

theorem withoutReturns_eq_self_iff {result : Except ConfigError Config} :
    withoutReturns result = result ↔ ReturnFree result := by
  rcases result with (fault | ⟨number, line | key | line⟩) | ⟨prompt, farewell⟩
  · simp [withoutReturns, ConfigError.dropReturn, ReturnFree]
  · simp [withoutReturns, ConfigError.dropReturn, LineFault.dropReturn, ReturnFree,
      dropFinal_eq_self_iff]
  · simp [withoutReturns, ConfigError.dropReturn, LineFault.dropReturn, ReturnFree]
  · simp [withoutReturns, ConfigError.dropReturn, LineFault.dropReturn, ReturnFree,
      dropFinal_eq_self_iff]
  · simp [withoutReturns, dropReturns, ReturnFree, dropFinal_eq_self_iff]

end Config

/-! ## A file -/

theorem Tree.follow_single {tree : Tree} {held : Descriptors Nat} {dir number : Nat}
    {name : Bytes} (links : Nat) (hs : tree.step dir name = .ok number)
    (hl : tree.leap? held number = .ok none) :
    tree.follow held links dir [name] = .ok number := by
  rw [Tree.follow, hs]
  dsimp only
  rw [hl]
  dsimp only
  rw [Tree.follow]

theorem Machine.readFile_of_walk {machine : Machine} {here : Standpoint} {path content : Bytes}
    {node mode : Nat} (hp : path.hasNul = false) (hw : machine.tree.walk here path = .ok node)
    (hn : machine.tree.node? node = some (.file content mode)) :
    machine.readFile here path = .ok content := by
  unfold Machine.readFile Machine.openForReading
  simp [hp, hw, hn, Machine.openNode, Machine.readAll, Machine.read, Machine.unread,
    Machine.file?, Machine.node?]

namespace Cli

open Config

/-- A file with the bytes of a text gives what the text gives, less the carriage returns at the end
of the texts in it, and so the same if and only if there are none. -/
theorem readConfig_utf8 {machine : Machine} {dir : Nat} {path : Bytes} {text : Text}
    (h : machine.readFile ⟨dir, machine.held Handle.standard⟩ path = .ok text.utf8) :
    readConfig machine dir path = withoutReturns (ofText text) ∧
      (readConfig machine dir path = ofText text ↔ ReturnFree (ofText text)) := by
  have hr : readConfig machine dir path = withoutReturns (ofText text) := by
    rw [readConfig, h]
    exact ofFile_utf8 text
  rw [hr]
  exact ⟨rfl, withoutReturns_eq_self_iff⟩

theorem readConfig_utf8_limit :
    let text : Text := "max_tokens=8\n".toList
    let machine : Machine :=
      { tree := ⟨#[.directory [(bytes "c", 1)] 0 0o755, .file text.utf8 0o644]⟩ }
    machine.readFile ⟨0, machine.held Handle.standard⟩ (bytes "c") = .ok text.utf8 ∧
      readConfig machine 0 (bytes "c") = ofText text ∧ ofText text = .ok { maxTokens := 8 } := by
  intro text machine
  have hw : machine.tree.walk ⟨0, machine.held Handle.standard⟩ (bytes "c") = .ok 1 :=
    Tree.follow_single Tree.maxLinks rfl rfl
  have h : machine.readFile ⟨0, machine.held Handle.standard⟩ (bytes "c") = .ok text.utf8 :=
    Machine.readFile_of_walk rfl hw rfl
  have ht : ofText text = .ok { maxTokens := 8 } := rfl
  refine ⟨h, (readConfig_utf8 h).2.2 ?_, ht⟩
  rw [ht]
  exact ⟨by decide, by decide⟩

/-- A prompt that ends in a carriage return keeps it in a text, and loses it in a file. -/
theorem readConfig_ne_ofText :
    let text : Text := "prompt=a\r\r\n".toList
    let machine : Machine :=
      { tree := ⟨#[.directory [(bytes "c", 1)] 0 0o755, .file text.utf8 0o644]⟩ }
    machine.readFile ⟨0, machine.held Handle.standard⟩ (bytes "c") = .ok text.utf8 ∧
      readConfig machine 0 (bytes "c") = .ok { prompt := "a".toList } ∧
      ofText text = .ok { prompt := "a\r".toList } ∧
      readConfig machine 0 (bytes "c") ≠ ofText text := by
  intro text machine
  have hw : machine.tree.walk ⟨0, machine.held Handle.standard⟩ (bytes "c") = .ok 1 :=
    Tree.follow_single Tree.maxLinks rfl rfl
  have h : machine.readFile ⟨0, machine.held Handle.standard⟩ (bytes "c") = .ok text.utf8 :=
    Machine.readFile_of_walk rfl hw rfl
  have hr : readConfig machine 0 (bytes "c") = .ok { prompt := "a".toList } := by
    rw [readConfig, h]
    rfl
  have ht : ofText text = .ok { prompt := "a\r".toList } := rfl
  refine ⟨h, hr, ht, ?_⟩
  rw [hr, ht]
  intro he
  cases he

end Cli

end LineShell
