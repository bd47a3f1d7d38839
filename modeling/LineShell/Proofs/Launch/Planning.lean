import LineShell.Proofs.Launch.Search

/-!
# Plans are faithful

A command is refused for the first of its words that has a NUL, and for the first such target only
if no word has one (`Command.RefusedFor`); it asks the system for nothing. The plan of any other
command `Carries` it: nothing is changed, lost or moved on the way into the argument vectors, and
each of them ends with its only empty slot (`ArgVector.Holds`). `prepare_faithful` puts the two
together.
-/

namespace LineShell

variable {κ φ : Type}

/-! ## Argument vectors -/

namespace ArgVector

/-- The vector has a slot for each of the strings, in order, and its only empty slot at the end. -/
structure Holds (vector : ArgVector) (strings : List Bytes) : Prop where
  length_eq : vector.length = strings.length + 1
  read_eq : vector.read = strings
  empty_iff : ∀ i, vector[i]? = some none ↔ i + 1 = vector.length

theorem length_ofList (strings : List Bytes) : (ofList strings).length = strings.length + 1 := by
  rw [ofList, List.length_append, List.length_map, List.length_singleton]

theorem empty_ofList_iff (strings : List Bytes) (i : Nat) :
    (ofList strings)[i]? = some none ↔ i + 1 = (ofList strings).length := by
  rw [length_ofList]
  induction strings generalizing i with
  | nil =>
    cases i with
    | zero => exact iff_of_true rfl rfl
    | succ i => exact iff_of_false nofun nofun
  | cons string rest ih =>
    cases i with
    | zero => exact iff_of_false nofun nofun
    | succ i =>
      have hs : (ofList (string :: rest))[i + 1]? = (ofList rest)[i]? := rfl
      rw [hs, ih, List.length_cons, Nat.add_right_cancel_iff (m := i + 1)]

theorem eq_ofList {vector : ArgVector} {strings : List Bytes}
    (hl : vector.length = strings.length + 1) (hr : vector.read = strings) :
    vector = ofList strings := by
  induction vector generalizing strings with
  | nil => cases hl
  | cons slot rest ih =>
    cases slot with
    | none =>
      rw [← hr] at hl ⊢
      have hn : rest = [] := List.eq_nil_of_length_eq_zero (Nat.add_right_cancel hl)
      rw [hn]
      rfl
    | some string =>
      rw [read] at hr
      have hc : ofList (string :: read rest) = some string :: ofList (read rest) := rfl
      rw [← hr] at hl ⊢
      rw [hc, ← ih (Nat.add_right_cancel hl) rfl]

/-- There is only one such vector. -/
theorem holds_iff {vector : ArgVector} {strings : List Bytes} :
    vector.Holds strings ↔ vector = ofList strings := by
  constructor
  · intro h
    exact eq_ofList h.length_eq h.read_eq
  · rintro rfl
    exact ⟨length_ofList strings, read_ofList strings, empty_ofList_iff strings⟩

end ArgVector

/-! ## Commands that are refused -/

/-- The text has a NUL, and none of those before it has. -/
def FirstWithNul (texts : List Bytes) (text : Bytes) : Prop :=
  text.hasNul ∧ ∃ before after, texts = before ++ text :: after ∧ ∀ t ∈ before, t.hasNul = false

theorem FirstWithNul.mem {texts : List Bytes} {text : Bytes} (h : FirstWithNul texts text) :
    text ∈ texts := by
  obtain ⟨-, before, after, rfl, -⟩ := h
  exact List.mem_append_right _ List.mem_cons_self

namespace Command

def targets (command : Command) : List Bytes := command.redirections.map (·.target)

/-- The text for which the command cannot be planned. -/
inductive RefusedFor (command : Command) : Bytes → Prop where
  | word {text : Bytes} : FirstWithNul command.texts text → RefusedFor command text
  | target {text : Bytes} : (∀ word ∈ command.texts, word.hasNul = false) →
      FirstWithNul command.targets text → RefusedFor command text

theorem RefusedFor.exists_hasNul {command : Command} {text : Bytes} (h : command.RefusedFor text) :
    ∃ text ∈ command.texts ++ command.targets, text.hasNul := by
  cases h with
  | word h => exact ⟨text, List.mem_append_left _ h.mem, h.1⟩
  | target _ h => exact ⟨text, List.mem_append_right _ h.mem, h.1⟩

end Command

namespace LaunchPlan

theorem firstWithNul_eq_some_iff {texts : List Bytes} {text : Bytes} :
    firstWithNul texts = some text ↔ FirstWithNul texts text := by
  unfold firstWithNul FirstWithNul
  simp only [List.find?_eq_some_iff_append, Bool.not_eq_true']

theorem prepare_of_hasNul {command : Command} (view : View)
    (h : ∃ text ∈ command.texts ++ command.targets, text.hasNul) :
    ∃ text, command.RefusedFor text ∧
      prepare command view = .error (.invalidArgument (Text.lossy text)) := by
  unfold prepare
  cases hw : firstWithNul command.texts with
  | some text => exact ⟨text, .word (firstWithNul_eq_some_iff.1 hw), rfl⟩
  | none =>
    have hn := firstWithNul_eq_none_iff.1 hw
    cases ht : firstWithNul command.targets with
    | some text =>
      refine ⟨text, .target hn (firstWithNul_eq_some_iff.1 ht), ?_⟩
      rw [Command.targets] at ht
      rw [ht]
      rfl
    | none =>
      obtain ⟨text, hm, h0⟩ := h
      have hf : text.hasNul = false :=
        (List.mem_append.1 hm).elim (hn text) (firstWithNul_eq_none_iff.1 ht text)
      rw [hf] at h0
      cases h0

/-! ## Commands that are planned -/

/-- The plan takes over the words, the redirections and the variables as they are, and looks for
the program at the candidates that the system can be asked for. The script runner would be given
the script and all words but the first. -/
structure Carries (plan : LaunchPlan) (command : Command) (view : View) : Prop where
  argv : plan.argv.Holds command.texts
  script : ∀ script, (plan.scriptArguments script).Holds
    (scriptRunner :: script :: command.texts.tail)
  environment : plan.environment.Holds view.snapshot
  bindings : plan.bindings = command.redirections
  programs : ∃ name, command.name? = some name ∧
    plan.programs = (Candidates.ofCommand view.get name).filter (!·.hasNul)

theorem exists_carries {command : Command} (view : View) (hw : command.texts ≠ [])
    (hn : ∀ text ∈ command.texts ++ command.targets, text.hasNul = false) :
    ∃ plan, prepare command view = .ok plan ∧ plan.Carries command view := by
  obtain ⟨name, arguments, ht⟩ := List.exists_cons_of_ne_nil hw
  refine ⟨_, prepare_of_noNul view ht hn, ?_⟩
  constructor
  · exact ArgVector.holds_iff.2 (by rw [ht])
  · intro script
    rw [scriptArguments_of_scriptVector script rfl, ht]
    exact ArgVector.holds_iff.2 rfl
  · exact ArgVector.holds_iff.2 rfl
  · rfl
  · refine ⟨name, ?_, rfl⟩
    rw [Command.name?, ht]
    rfl

end LaunchPlan

/-! ## Launches -/

theorem launch_of_texts_nil (kernel : Kernel κ φ) (table : Descriptors φ) (system : κ)
    {command : Command} (view : View) (h : command.texts = []) :
    launch kernel table system command view = (.ok .unchanged, system) := by
  unfold launch
  rw [if_pos (Command.isEmpty_iff_texts.2 h)]

theorem launch_of_prepare_error (kernel : Kernel κ φ) (table : Descriptors φ) (system : κ)
    {command : Command} {view : View} {cause : ShellError} (hw : command.texts ≠ [])
    (hp : LaunchPlan.prepare command view = .error cause) :
    launch kernel table system command view = (.error cause, system) := by
  unfold launch
  rw [if_neg (mt Command.isEmpty_iff_texts.1 hw), hp]

/-- A command with a plan is launched if a child can be made for it. -/
theorem launch_of_plan (kernel : Kernel κ φ) (table : Descriptors φ) (system : κ)
    {command : Command} {view : View} {plan : LaunchPlan} (hw : command.texts ≠ [])
    (hp : LaunchPlan.prepare command view = .ok plan) :
    (∃ forked ending last, kernel.fork system = (.ok (), forked) ∧
      Child.live kernel ⟨forked, table⟩ plan = (ending, last) ∧
      launch kernel table system command view =
        (.ok (.code (if ∀ cause ∈ kernel.waitErrors last ending, cause = .interrupted
          then ending.status else 1)), last)) ∨
    ∃ cause after, kernel.fork system = (.error cause, after) ∧
      launch kernel table system command view = (.error (.fork cause), after) := by
  have he := Command.isEmpty_of_texts hw
  rcases hf : kernel.fork system with ⟨answer, after⟩
  cases answer with
  | error cause => exact .inr ⟨cause, after, rfl, launch_of_unforked he hp hf⟩
  | ok =>
    rcases hl : Child.live kernel ⟨after, table⟩ plan with ⟨ending, last⟩
    refine .inl ⟨after, ending, last, rfl, hl, ?_⟩
    rw [launch_of_forked he hp hf, hl, ← waitFor_eq]

/-- **Launch planning is faithful.** A command with words is refused if and only if a word or a
target has a NUL, with the first of these in the error, words before targets; no system is asked
for anything then, not even for a child. Otherwise a plan carries all of the command, and the child
lives by it if there can be one. A command without words is not planned, whatever its targets
are. -/
theorem prepare_faithful (kernel : Kernel κ φ) (table : Descriptors φ) (system : κ)
    (command : Command) (view : View) :
    (command.texts ≠ [] →
      ((∃ cause, LaunchPlan.prepare command view = .error cause) ↔
        ∃ text ∈ command.texts ++ command.targets, text.hasNul) ∧
      ((∃ text, command.RefusedFor text ∧
          LaunchPlan.prepare command view = .error (.invalidArgument (Text.lossy text)) ∧
          launch kernel table system command view =
            (.error (.invalidArgument (Text.lossy text)), system)) ∨
        ∃ plan, LaunchPlan.prepare command view = .ok plan ∧ plan.Carries command view ∧
          ((∃ forked ending last, kernel.fork system = (.ok (), forked) ∧
            Child.live kernel ⟨forked, table⟩ plan = (ending, last) ∧
            launch kernel table system command view =
              (.ok (.code (if ∀ cause ∈ kernel.waitErrors last ending, cause = .interrupted
                then ending.status else 1)), last)) ∨
          ∃ cause after, kernel.fork system = (.error cause, after) ∧
            launch kernel table system command view = (.error (.fork cause), after)))) ∧
    (command.texts = [] → launch kernel table system command view = (.ok .unchanged, system)) := by
  refine ⟨fun hw => ?_, launch_of_texts_nil kernel table system view⟩
  by_cases h : ∃ text ∈ command.texts ++ command.targets, text.hasNul
  · obtain ⟨text, hr, hp⟩ := LaunchPlan.prepare_of_hasNul view h
    exact ⟨iff_of_true ⟨_, hp⟩ h,
      .inl ⟨text, hr, hp, launch_of_prepare_error kernel table system hw hp⟩⟩
  · have hn : ∀ text ∈ command.texts ++ command.targets, text.hasNul = false :=
      fun text hm => Bool.eq_false_iff.2 fun h0 => h ⟨text, hm, h0⟩
    obtain ⟨plan, hp, hc⟩ := LaunchPlan.exists_carries view hw hn
    refine ⟨iff_of_false ?_ h, .inr ⟨plan, hp, hc, launch_of_plan kernel table system hw hp⟩⟩
    rintro ⟨cause, he⟩
    rw [hp] at he
    cases he

/-- The second target is the first text with a NUL; one of three candidates has one as well; a
command without words has one in its target. -/
theorem prepare_faithful_target :
    let kernel : Kernel Unit Nat := {
      openFile := fun _ _ _ => (.ok 9, ())
      write := fun _ _ _ => ()
      execute := fun _ _ _ _ _ => (.error .noEntry, ()) }
    let view : View := ⟨fun _ => some (bytes "/a:/\x00:"), [bytes "PATH=/a"]⟩
    let refused := Command.ofTexts [bytes "x", bytes "y"]
      [⟨.error, bytes "f"⟩, ⟨.input, bytes "\x00f"⟩, ⟨.output, bytes "\x00g"⟩]
    let planned := Command.ofTexts [bytes "x"] [⟨.output, bytes "f"⟩, ⟨.output, bytes "g"⟩]
    let wordless := Command.ofTexts [] [⟨.output, bytes "\x00"⟩]
    (refused.texts ≠ [] ∧ planned.texts ≠ [] ∧ wordless.texts = []) ∧
    launch kernel [] () refused view = (.error (.invalidArgument "\x00f".toList), ()) ∧
    (∃ plan, LaunchPlan.prepare planned view = .ok plan ∧ plan.Carries planned view ∧
      plan.programs = [bytes "/a/x", bytes "./x"]) ∧
    launch kernel [] () wordless view = (.ok .unchanged, ()) := by
  intro kernel view refused planned wordless
  have hr : refused.texts ≠ [] := by decide
  have hp : planned.texts ≠ [] := by decide
  have hw : wordless.texts = [] := rfl
  refine ⟨⟨hr, hp, hw⟩, ?_, ?_, (prepare_faithful kernel [] () wordless view).2 hw⟩
  · have he : LaunchPlan.prepare refused view =
        .error (.invalidArgument "\x00f".toList) := rfl
    rcases ((prepare_faithful kernel [] () refused view).1 hr).2 with
      ⟨text, -, ht, hl⟩ | ⟨plan, ho, -⟩
    · rw [hl, Except.error.inj (ht.symm.trans he)]
    · rw [he] at ho
      cases ho
  · rcases ((prepare_faithful kernel [] () planned view).1 hp).2 with
      ⟨text, -, ht, -⟩ | ⟨plan, ho, hc, -⟩
    · cases ht
    · refine ⟨plan, ho, hc, ?_⟩
      obtain ⟨name, hn, hprograms⟩ := hc.programs
      cases hn
      rw [hprograms]
      decide +kernel

end LineShell
