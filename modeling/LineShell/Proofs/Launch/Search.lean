import LineShell.Proofs.Launch.Calls

/-!
# The search for a program

A child tries the candidates for its program in order, up to the first one whose refusal is no
reason to try the next (`Tried`). If that one is executable but in no known format, the script
runner is tried with it (`Scripted`). `launch_tries` reads off what a command asks for once its
streams are bound, and what comes of it.
-/

namespace LineShell

variable {κ φ : Type}

namespace Child

/-- A program and the answer to the attempt to execute it. -/
abbrev Attempt := Bytes × Except Errno Ending

/-- The answer is a refusal after which the next candidate is tried. -/
def Skipped (answer : Except Errno Ending) : Prop :=
  ∃ cause ∈ [Errno.accessDenied, .noEntry, .notDirectory, .staleHandle, .noDevice, .timedOut],
    answer = .error cause

/-- The attempts at the candidates: in order, each but the last one refused in a way that leads on
to the next, and the last one not so unless there is no other candidate. -/
structure Tried (candidates : List Bytes) (tried : List Attempt) : Prop where
  inOrder : tried.map Prod.fst <+: candidates
  skipped : ∀ attempt ∈ tried.dropLast, Skipped attempt.2
  stopped : tried.map Prod.fst = candidates ∨ ∃ attempt ∈ tried.getLast?, ¬ Skipped attempt.2

/-- The attempts at scripts: one if the last program was in no known format, and else none. -/
inductive Scripted (tried : List Attempt) : List Attempt → Prop where
  | script {program : Bytes} (answer : Except Errno Ending) :
      tried.getLast? = some (program, .error .badFormat) → Scripted tried [(program, answer)]
  | none : (∀ program, tried.getLast? ≠ some (program, .error .badFormat)) → Scripted tried []

/-- What comes of the attempts: the last one has succeeded, or all have been refused. -/
def EndsIn (attempts : List Attempt) : Option Ending → Prop
  | some ending => ∃ program, attempts.getLast? = some (program, .ok ending)
  | none => ∀ attempt ∈ attempts, ∃ cause, attempt.2 = .error cause

theorem triesNext_iff {cause : Errno} : triesNext cause ↔ Skipped (.error cause) := by
  unfold triesNext Skipped
  simp

theorem Skipped.not_badFormat : ¬ Skipped (.error .badFormat) := by
  rw [← triesNext_iff]
  decide

/-! ## One more candidate before the others -/

theorem getLast?_cons_of_some {first last : Attempt} {attempts : List Attempt}
    (h : attempts.getLast? = some last) : (first :: attempts).getLast? = some last := by
  rw [List.getLast?_cons, h, Option.getD_some]

theorem Tried.single (program : Bytes) (rest : List Bytes) {answer : Except Errno Ending}
    (h : ¬ Skipped answer) : Tried (program :: rest) [(program, answer)] where
  inOrder := ⟨rest, rfl⟩
  skipped _ hm := by cases hm
  stopped := .inr ⟨(program, answer), rfl, h⟩

theorem Tried.cons {candidates : List Bytes} {tried : List Attempt} (program : Bytes)
    {answer : Except Errno Ending} (hs : Skipped answer) (h : Tried candidates tried) :
    Tried (program :: candidates) ((program, answer) :: tried) where
  inOrder := List.cons_prefix_cons.2 ⟨rfl, h.inOrder⟩
  skipped attempt hm := by
    cases tried with
    | nil => cases hm
    | cons next rest =>
      rw [List.dropLast_cons_cons, List.mem_cons] at hm
      rcases hm with rfl | hm
      · exact hs
      · exact h.skipped attempt hm
  stopped := by
    rcases h.stopped with ha | ⟨attempt, hm, hn⟩
    · exact .inl (congrArg (program :: ·) ha)
    · exact .inr ⟨attempt, getLast?_cons_of_some hm, hn⟩

theorem Scripted.cons {tried scripts : List Attempt} (program : Bytes)
    {answer : Except Errno Ending} (hs : Skipped answer) (h : Scripted tried scripts) :
    Scripted ((program, answer) :: tried) scripts := by
  cases h with
  | script answer hl => exact .script answer (getLast?_cons_of_some hl)
  | none hl =>
    refine .none fun other he => ?_
    cases ht : tried.getLast? with
    | none =>
      rw [List.getLast?_cons, ht] at he
      cases he
      exact Skipped.not_badFormat hs
    | some last =>
      rw [getLast?_cons_of_some ht] at he
      exact hl other (ht.trans he)

theorem EndsIn.cons {attempts : List Attempt} {result : Option Ending} (program : Bytes)
    {answer : Except Errno Ending} (hs : Skipped answer) (h : EndsIn attempts result) :
    EndsIn ((program, answer) :: attempts) result := by
  cases result with
  | some ending =>
    obtain ⟨last, hl⟩ := h
    exact ⟨last, getLast?_cons_of_some hl⟩
  | none =>
    obtain ⟨cause, _, rfl⟩ := hs
    exact List.forall_mem_cons.2 ⟨⟨cause, rfl⟩, h⟩

/-! ## The whole search -/

/-- The requests of a search with these words and this environment. -/
def searchCalls (table : Descriptors φ) (plan : LaunchPlan) (tried scripts : List Attempt) :
    List (Call φ) :=
  tried.map (fun attempt =>
      .executed table attempt.1 plan.argv plan.environment attempt.2) ++
    scripts.map fun attempt =>
      .executed table LaunchPlan.scriptRunner (plan.scriptArguments attempt.1) plan.environment
        attempt.2

theorem search_tries (kernel : Kernel κ φ) (child : Child (Observed κ φ) φ) (plan : LaunchPlan)
    (programs : List Bytes) :
    ∃ tried scripts, Tried programs tried ∧ Scripted tried scripts ∧
      ∃ result last, search kernel.observed child plan programs = (result, last) ∧
        EndsIn (tried ++ scripts) result ∧ last.table = child.table ∧
        last.system.calls =
          child.system.calls ++ searchCalls child.table plan tried scripts := by
  induction programs generalizing child with
  | nil =>
    refine ⟨[], [], ⟨⟨[], rfl⟩, ?_, .inl rfl⟩, .none nofun, none, child, rfl, ?_, rfl, ?_⟩
    · nofun
    · nofun
    · exact (List.append_nil _).symm
  | cons program rest ih =>
    rcases hk : kernel.execute child.system.base child.table program plan.argv
      plan.environment with ⟨answer, base⟩
    have ho := Kernel.execute_observed hk
    cases answer with
    | ok ending =>
      refine ⟨[(program, .ok ending)], [], .single program rest ?_, .none ?_, ?_⟩
      · rintro ⟨_, _, h⟩
        cases h
      · nofun
      · exact ⟨_, _, search_of_executed rest ho, ⟨program, rfl⟩, rfl, rfl⟩
    | error cause =>
      by_cases hb : cause = .badFormat
      · subst hb
        rcases hr : kernel.execute base child.table LaunchPlan.scriptRunner
          (plan.scriptArguments program) plan.environment with ⟨answer, after⟩
        refine ⟨[(program, .error .badFormat)], [(program, answer)],
          .single program rest Skipped.not_badFormat, .script answer rfl, ?_⟩
        refine ⟨_, _, search_of_badFormat rest ho (Kernel.execute_observed hr), ?_, rfl, ?_⟩
        · cases answer with
          | ok ending => exact ⟨program, rfl⟩
          | error cause => simp [EndsIn, Except.toOption]
        · simp [searchCalls]
      · by_cases ht : triesNext cause
        · have hs := triesNext_iff.1 ht
          obtain ⟨tried, scripts, hm, hc, result, last, hr, he, htab, hcalls⟩ :=
            ih ⟨⟨base, _⟩, child.table⟩
          refine ⟨(program, .error cause) :: tried, scripts, hm.cons program hs,
            hc.cons program hs, result, last, ?_, he.cons program hs, htab, ?_⟩
          · exact (search_of_triesNext rest ho ht).trans hr
          · rw [hcalls, List.append_assoc]
            rfl
        · refine ⟨[(program, .error cause)], [], .single program rest ?_, .none ?_, ?_⟩
          · rwa [← triesNext_iff]
          · rintro other he
            cases he
            exact hb rfl
          · refine ⟨_, _, search_of_refused rest ho hb ht, ?_, rfl, rfl⟩
            simp [EndsIn]

/-- Once the streams are bound, a child becomes the first candidate that can be executed. If there
is none it says so, and only then. -/
theorem live_tries {kernel : Kernel κ φ} {child ready : Child (Observed κ φ) φ} {plan : LaunchPlan}
    (h : bindAll kernel.observed child plan.bindings = .ok ready) :
    ∃ tried scripts, Tried plan.programs tried ∧ Scripted tried scripts ∧
      ∃ said ending last, live kernel.observed child plan = (ending, last) ∧
        last.calls = ready.system.calls ++ searchCalls ready.table plan tried scripts ++ said ∧
        (EndsIn (tried ++ scripts) (some ending) ∧ said = [] ∨
          EndsIn (tried ++ scripts) none ∧ ending = .exited 127 ∧
            said = (ready.table.at? Stream.error.descriptor).toList.map
              (Call.wrote · (plan.calledAs ++ bytes ": command not found\n"))) := by
  obtain ⟨tried, scripts, ht, hs, result, last, hr, he, htab, hc⟩ :=
    search_tries kernel ready plan plan.programs
  refine ⟨tried, scripts, ht, hs, ?_⟩
  cases result with
  | some ending =>
    refine ⟨[], ending, last.system, ?_, ?_, .inl ⟨he, rfl⟩⟩
    · simp only [live, h, hr]
    · rw [hc, List.append_nil]
  | none =>
    let message := plan.calledAs ++ bytes ": command not found\n"
    refine ⟨_, .exited 127, (complain kernel.observed last message).system, ?_, ?_,
      .inr ⟨he, rfl, rfl⟩⟩
    · simp only [live, h, hr]
      rfl
    · rw [complain_calls, htab, hc]

end Child

/-! ## Launching a command -/

namespace LaunchPlan

theorem firstWithNul_eq_none_iff {texts : List Bytes} :
    firstWithNul texts = none ↔ ∀ text ∈ texts, text.hasNul = false := by
  simp [firstWithNul]

theorem prepare_of_noNul {command : Command} {name : Bytes} {arguments : List Bytes}
    (view : View) (hw : command.texts = name :: arguments)
    (hn : ∀ text ∈ command.texts ++ command.redirections.map (·.target), text.hasNul = false) :
    prepare command view = .ok {
      programs := (Candidates.ofCommand view.get name).filter (!·.hasNul)
      argv := ArgVector.ofList (name :: arguments)
      scriptArgv := scriptVector (ArgVector.ofList (name :: arguments))
      environment := ArgVector.ofList view.snapshot
      bindings := command.redirections } := by
  rw [hw] at hn
  have ht := firstWithNul_eq_none_iff.2 fun text h => hn text (List.mem_append_left _ h)
  have hr := firstWithNul_eq_none_iff.2 fun text h => hn text (List.mem_append_right _ h)
  simp only [prepare, Command.name?, hw, ht, hr]
  rfl

/-- The script takes the slot after the name of the script runner, and nothing else moves. -/
theorem scriptArguments_of_scriptVector {plan : LaunchPlan} {name : Bytes}
    {arguments : List Bytes} (script : Bytes)
    (h : plan.scriptArgv = scriptVector (ArgVector.ofList (name :: arguments))) :
    plan.scriptArguments script = ArgVector.ofList (scriptRunner :: script :: arguments) := by
  unfold scriptArguments
  rw [h]
  rfl

end LaunchPlan

theorem Command.isEmpty_iff_texts {command : Command} : command.isEmpty ↔ command.texts = [] := by
  rw [Command.isEmpty, Command.texts, List.isEmpty_iff, List.map_eq_nil_iff]

theorem Command.isEmpty_of_texts {command : Command} (h : command.texts ≠ []) :
    command.isEmpty = false :=
  Bool.eq_false_iff.2 (mt Command.isEmpty_iff_texts.1 h)

/-- **The search for a program.** A command without a NUL whose streams can be bound asks for its
candidates in order, those with a NUL left out, with its words and the snapshot of the variables.
It stops at the first refusal that is no reason to try the next one, or at the end. A candidate in
no known format is run once by the script runner, with the words after the first. If all of this
is refused, and only then, the child says that there is no such command and exits with 127. The
status is that of the child's end, unless the system refuses to tell it. -/
theorem launch_tries {kernel : Kernel κ φ} {table : Descriptors φ} {system forked : κ}
    {command : Command} {name : Bytes} {arguments : List Bytes}
    {ready : Child (Observed κ φ) φ} (view : View) (hw : command.texts = name :: arguments)
    (hn : ∀ text ∈ command.texts ++ command.redirections.map (·.target), text.hasNul = false)
    (hf : kernel.fork system = (.ok (), forked))
    (hb : Child.bindAll kernel.observed ⟨⟨forked, [.forked (.ok ())]⟩, table⟩
      command.redirections = .ok ready) :
    ∃ tried scripts said ending status last,
      launch kernel.observed table ⟨system, []⟩ command view = (.ok (.code status), last) ∧
      launch kernel table system command view = (.ok (.code status), last.base) ∧
      (status = if ∀ cause ∈ kernel.waitErrors last.base ending, cause = .interrupted
        then ending.status else 1) ∧
      Child.Tried ((Candidates.ofCommand view.get name).filter (!·.hasNul)) tried ∧
      Child.Scripted tried scripts ∧
      last.calls = ready.system.calls ++
        (tried.map (fun attempt => .executed ready.table attempt.1
            (ArgVector.ofList (name :: arguments)) (ArgVector.ofList view.snapshot) attempt.2) ++
          scripts.map (fun attempt => .executed ready.table (bytes "/bin/sh")
            (ArgVector.ofList (bytes "/bin/sh" :: attempt.1 :: arguments))
            (ArgVector.ofList view.snapshot) attempt.2)) ++ said ∧
      ((∃ program, (tried ++ scripts).getLast? = some (program, .ok ending) ∧ said = []) ∨
        (∀ attempt ∈ tried ++ scripts, ∃ cause, attempt.2 = .error cause) ∧
          ending = .exited 127 ∧ said = (ready.table.at? 2).toList.map
            (Call.wrote · (name ++ bytes ": command not found\n"))) := by
  have hp := LaunchPlan.prepare_of_noNul view hw hn
  generalize hplan : (⟨_, _, _, _, _⟩ : LaunchPlan) = plan at hp
  have hb' : Child.bindAll kernel.observed ⟨⟨forked, [.forked (.ok ())]⟩, table⟩ plan.bindings =
      .ok ready := by
    rw [← hplan]
    exact hb
  have hs : plan.scriptArgv = LaunchPlan.scriptVector (ArgVector.ofList (name :: arguments)) := by
    rw [← hplan]
  obtain ⟨tried, scripts, ht, hsc, said, ending, last, hl, hc, he⟩ := Child.live_tries hb'
  have ho : launch kernel.observed table ⟨system, []⟩ command view =
      (.ok (.code (waitFor ending (kernel.waitErrors last.base ending))), last) := by
    have he := Command.isEmpty_of_texts (hw ▸ List.cons_ne_nil name arguments)
    have hfo : kernel.observed.fork ⟨system, []⟩ = (.ok (), ⟨forked, [.forked (.ok ())]⟩) :=
      Kernel.fork_observed hf
    rw [launch_of_forked he hp hfo, hl]
    rfl
  have hu := launch_observed kernel table ⟨system, []⟩ command view
  rw [ho] at hu
  refine ⟨tried, scripts, said, ending, _, last, ho, hu, waitFor_eq _ _, ?_, hsc, ?_, ?_⟩
  · rw [← hplan] at ht
    exact ht
  · simp only [hc, Child.searchCalls, LaunchPlan.scriptArguments_of_scriptVector _ hs]
    rw [← hplan]
    rfl
  · rcases he with ⟨⟨program, hlast⟩, hsaid⟩ | ⟨hall, hend, hsaid⟩
    · exact .inl ⟨program, hlast, hsaid⟩
    · refine .inr ⟨hall, hend, ?_⟩
      rw [hsaid, LaunchPlan.calledAs, ← hplan, ArgVector.read_ofList]
      rfl

/-- The first candidate is missing and the second one is a script, which the runner ends with 3. The
shell is interrupted once while it waits for that. -/
theorem launch_tries_script :
    let kernel : Kernel Unit Nat := {
      waitErrors := fun _ _ => [.interrupted]
      openFile := fun _ _ _ => (.ok 9, ())
      write := fun _ _ _ => ()
      execute := fun _ _ program _ _ =>
        if program = bytes "/b/x" then (.error .badFormat, ())
        else if program = bytes "/bin/sh" then (.ok (.exited 3), ())
        else (.error .noEntry, ()) }
    let command := Command.ofTexts [bytes "x", bytes "y"] [⟨.error, bytes "f"⟩]
    let view : View := ⟨fun _ => some (bytes "/a:/b:/c"), [bytes "PATH=/a:/b:/c"]⟩
    let ready : Child (Observed Unit Nat) Nat :=
      ⟨⟨(), [.forked (.ok ()), .opened (Redirection.request ⟨.error, bytes "f"⟩) (.ok 9)]⟩,
        [none, some 1, some 9]⟩
    (command.texts = bytes "x" :: [bytes "y"] ∧
      (∀ text ∈ command.texts ++ command.redirections.map (·.target), text.hasNul = false) ∧
      kernel.fork () = (.ok (), ()) ∧
      Child.bindAll kernel.observed ⟨⟨(), [.forked (.ok ())]⟩, [none, some 1, some 2]⟩
        command.redirections = .ok ready) ∧
    ∃ tried scripts last,
      launch kernel.observed [none, some 1, some 2] ⟨(), []⟩ command view =
        (.ok (.code 3), last) ∧
      Child.Tried [bytes "/a/x", bytes "/b/x", bytes "/c/x"] tried ∧
      Child.Scripted tried scripts ∧
      ∃ program, (tried ++ scripts).getLast? = some (program, .ok (.exited 3)) := by
  intro kernel command view ready
  have hw : command.texts = bytes "x" :: [bytes "y"] := rfl
  have hn : ∀ text ∈ command.texts ++ command.redirections.map (·.target),
      text.hasNul = false := by decide +kernel
  have hf : kernel.fork () = (.ok (), ()) := rfl
  have hb : Child.bindAll kernel.observed ⟨⟨(), [.forked (.ok ())]⟩, [none, some 1, some 2]⟩
      command.redirections = .ok ready := rfl
  refine ⟨⟨hw, hn, hf, hb⟩, ?_⟩
  obtain ⟨tried, scripts, said, ending, status, last, hl, hu, hst, ht, hs, _, he⟩ :=
    launch_tries view hw hn hf hb
  have hp : (Candidates.ofCommand view.get (bytes "x")).filter (!·.hasNul) =
      [bytes "/a/x", bytes "/b/x", bytes "/c/x"] := by decide +kernel
  have hc : (launch kernel [none, some 1, some 2] () command view).1 = .ok (.code 3) := rfl
  rw [hp] at ht
  rw [hu] at hc
  cases hc
  refine ⟨tried, scripts, last, hl, ht, hs, ?_⟩
  -- the only refusal to tell the end is an interruption
  have hend : ending.status = 3 := hst.symm
  rcases he with ⟨program, hlast, _⟩ | ⟨_, rfl, _⟩
  · refine ⟨program, ?_⟩
    cases ending with
    | exited code =>
      cases hend
      exact hlast
    | killed signal => cases hend
  · cases hend

end LineShell
