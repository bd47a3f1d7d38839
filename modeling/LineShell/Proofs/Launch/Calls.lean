import LineShell.Launch

/-!
# What a child asks of the system

An observed kernel does what another does and keeps every request with its answer, in order. A
child does not see that it is observed (`live_observed`, `launch_observed`), so that what it asks
for can be read off the requests.
-/

namespace LineShell

variable {κ φ : Type}

/-- A request to the system, with the answer if there is one: the shell asks for the child, and the
child for all else. -/
inductive Call (φ : Type) where
  | forked (answer : Except Errno Unit)
  | opened (request : OpenRequest) (answer : Except Errno φ)
  | wrote (file : φ) (data : Bytes)
  | executed (table : Descriptors φ) (program : Bytes) (argv environment : ArgVector)
      (answer : Except Errno Ending)

/-- A system and the requests made to it so far, in order. -/
structure Observed (κ φ : Type) where
  base : κ
  calls : List (Call φ) := []

namespace Kernel

/-- The kernel that does the same and keeps the requests. -/
def observed (kernel : Kernel κ φ) : Kernel (Observed κ φ) φ where
  fork system :=
    let (answer, base) := kernel.fork system.base
    (answer, ⟨base, system.calls ++ [.forked answer]⟩)
  waitErrors system ending := kernel.waitErrors system.base ending
  openFile system table request :=
    let (answer, base) := kernel.openFile system.base table request
    (answer, ⟨base, system.calls ++ [.opened request answer]⟩)
  dupError system number target := kernel.dupError system.base number target
  write system file data := ⟨kernel.write system.base file data, system.calls ++ [.wrote file data]⟩
  execute system table program argv environment :=
    let (answer, base) := kernel.execute system.base table program argv environment
    (answer, ⟨base, system.calls ++ [.executed table program argv environment answer]⟩)

variable {kernel : Kernel κ φ} {system : Observed κ φ} {table : Descriptors φ} {base : κ}

theorem fork_observed {answer : Except Errno Unit} (h : kernel.fork system.base = (answer, base)) :
    kernel.observed.fork system = (answer, ⟨base, system.calls ++ [.forked answer]⟩) := by
  simp only [observed, h]

theorem openFile_observed {request : OpenRequest} {answer : Except Errno φ}
    (h : kernel.openFile system.base table request = (answer, base)) :
    kernel.observed.openFile system table request =
      (answer, ⟨base, system.calls ++ [.opened request answer]⟩) := by
  simp only [observed, h]

theorem execute_observed {program : Bytes} {argv environment : ArgVector}
    {answer : Except Errno Ending}
    (h : kernel.execute system.base table program argv environment = (answer, base)) :
    kernel.observed.execute system table program argv environment =
      (answer, ⟨base, system.calls ++ [.executed table program argv environment answer]⟩) := by
  simp only [observed, h]

end Kernel

namespace Child

/-! ## One step of a child -/

section Steps

variable {kernel : Kernel κ φ} {child : Child κ φ} {redirection : Redirection} {system after : κ}
  {plan : LaunchPlan} {program : Bytes} {cause : Errno}

theorem bind_of_refused
    (h : kernel.openFile child.system child.table redirection.request = (.error cause, system)) :
    bind kernel child redirection =
      .error (complain kernel ⟨system, child.table⟩ (complaint redirection false cause)) := by
  simp only [bind, h]

theorem bind_of_moved {file : φ}
    (h : kernel.openFile child.system child.table redirection.request = (.ok file, system))
    (hd : kernel.dupError system child.table.lowestFree redirection.stream.descriptor = none) :
    bind kernel child redirection =
      .ok ⟨system, rebind child.table redirection.stream file⟩ := by
  simp only [bind, h, hd]

theorem bind_of_unmoved {file : φ}
    (h : kernel.openFile child.system child.table redirection.request = (.ok file, system))
    (hd : kernel.dupError system child.table.lowestFree redirection.stream.descriptor =
      some cause) :
    let last := complain kernel ⟨system, child.table.put child.table.lowestFree (some file)⟩
      (complaint redirection true cause)
    bind kernel child redirection =
      .error { last with table := last.table.put child.table.lowestFree none } := by
  simp only [bind, h, hd]

theorem search_of_executed {ending : Ending} (rest : List Bytes)
    (h : kernel.execute child.system child.table program plan.argv plan.environment =
      (.ok ending, system)) :
    search kernel child plan (program :: rest) = (some ending, ⟨system, child.table⟩) := by
  simp only [search, h]

theorem search_of_badFormat {answer : Except Errno Ending} (rest : List Bytes)
    (h : kernel.execute child.system child.table program plan.argv plan.environment =
      (.error .badFormat, system))
    (hs : kernel.execute system child.table LaunchPlan.scriptRunner
      (plan.scriptArguments program) plan.environment = (answer, after)) :
    search kernel child plan (program :: rest) = (answer.toOption, ⟨after, child.table⟩) := by
  simp only [search, h, hs, ↓reduceIte]

theorem search_of_triesNext (rest : List Bytes)
    (h : kernel.execute child.system child.table program plan.argv plan.environment =
      (.error cause, system)) (ht : triesNext cause) :
    search kernel child plan (program :: rest) =
      search kernel ⟨system, child.table⟩ plan rest := by
  have hb : cause ≠ .badFormat := by
    rintro rfl
    cases ht
  simp only [search, h, hb, ht, ↓reduceIte]

theorem search_of_refused (rest : List Bytes)
    (h : kernel.execute child.system child.table program plan.argv plan.environment =
      (.error cause, system)) (hb : cause ≠ .badFormat) (ht : ¬ triesNext cause) :
    search kernel child plan (program :: rest) = (none, ⟨system, child.table⟩) := by
  simp only [search, h, hb, ht, ↓reduceIte, Bool.false_eq_true]

end Steps

/-! ## A child that is observed -/

/-- The child on the system with no request made so far. -/
def observe (child : Child κ φ) : Child (Observed κ φ) φ := ⟨⟨child.system, []⟩, child.table⟩

/-- The child on the system without the requests. -/
def unobserved (child : Child (Observed κ φ) φ) : Child κ φ := ⟨child.system.base, child.table⟩

section Observed

variable (kernel : Kernel κ φ) (child : Child (Observed κ φ) φ)

theorem complain_observed (message : Bytes) :
    (complain kernel.observed child message).unobserved =
      complain kernel child.unobserved message := by
  unfold complain
  cases h : child.table.at? Stream.error.descriptor <;> simp [unobserved, Kernel.observed, h]

/-- What is written goes to whatever the error stream is, and nowhere if that is closed. -/
theorem complain_calls (message : Bytes) :
    (complain kernel.observed child message).system.calls =
      child.system.calls ++ ((child.table.at? Stream.error.descriptor).toList.map
        (Call.wrote · message)) := by
  unfold complain
  cases h : child.table.at? Stream.error.descriptor <;> simp [Kernel.observed]

theorem bind_observed (redirection : Redirection) :
    bind kernel child.unobserved redirection =
      match bind kernel.observed child redirection with
      | .ok child => .ok child.unobserved
      | .error child => .error child.unobserved := by
  rcases h : kernel.openFile child.system.base child.table redirection.request with ⟨answer, base⟩
  have ho := Kernel.openFile_observed h
  cases answer with
  | error cause =>
    rw [bind_of_refused h, bind_of_refused ho]
    exact congrArg Except.error (complain_observed kernel ⟨⟨base, _⟩, child.table⟩ _).symm
  | ok file =>
    cases hd : kernel.dupError base child.table.lowestFree redirection.stream.descriptor with
    | none =>
      rw [bind_of_moved h hd, bind_of_moved ho hd]
      rfl
    | some cause =>
      rw [bind_of_unmoved h hd, bind_of_unmoved ho hd]
      exact congrArg (fun last => Except.error
          { last with table := last.table.put child.table.lowestFree none })
        (complain_observed kernel ⟨⟨base, _⟩, _⟩ _).symm

theorem bindAll_observed (redirections : List Redirection) :
    bindAll kernel child.unobserved redirections =
      match bindAll kernel.observed child redirections with
      | .ok child => .ok child.unobserved
      | .error child => .error child.unobserved := by
  induction redirections generalizing child with
  | nil => rfl
  | cons redirection rest ih =>
    rw [bindAll, bindAll, bind_observed]
    cases bind kernel.observed child redirection with
    | ok next => exact ih next
    | error last => rfl

theorem search_observed (plan : LaunchPlan) (programs : List Bytes) :
    search kernel child.unobserved plan programs =
      ((search kernel.observed child plan programs).1,
        (search kernel.observed child plan programs).2.unobserved) := by
  induction programs generalizing child with
  | nil => rfl
  | cons program rest ih =>
    rcases h : kernel.execute child.system.base child.table program plan.argv
      plan.environment with ⟨answer, base⟩
    have ho := Kernel.execute_observed h
    cases answer with
    | ok ending =>
      rw [search_of_executed rest h, search_of_executed rest ho]
      rfl
    | error cause =>
      by_cases hb : cause = .badFormat
      · subst hb
        rcases hs : kernel.execute base child.table LaunchPlan.scriptRunner
          (plan.scriptArguments program) plan.environment with ⟨answer, after⟩
        rw [search_of_badFormat rest h hs,
          search_of_badFormat rest ho (Kernel.execute_observed hs)]
        rfl
      · by_cases ht : triesNext cause
        · rw [search_of_triesNext rest h ht, search_of_triesNext rest ho ht]
          exact ih ⟨⟨base, _⟩, child.table⟩
        · rw [search_of_refused rest h hb ht, search_of_refused rest ho hb ht]
          rfl

/-- A child does not see that it is observed. -/
theorem live_observed (plan : LaunchPlan) :
    live kernel child.unobserved plan =
      ((live kernel.observed child plan).1, (live kernel.observed child plan).2.base) := by
  unfold live
  rw [bindAll_observed]
  cases bindAll kernel.observed child plan.bindings with
  | error last => rfl
  | ok ready =>
    dsimp only
    rw [search_observed]
    rcases search kernel.observed ready plan plan.programs with ⟨result, last⟩
    cases result with
    | some ending => rfl
    | none =>
      dsimp only
      rw [← complain_observed]
      rfl

end Observed

end Child

/-! ## Launches -/

section Launches

variable {kernel : Kernel κ φ} {table : Descriptors φ} {system forked : κ} {command : Command}
  {view : View} {plan : LaunchPlan}

theorem launch_of_forked (hw : command.isEmpty = false)
    (hp : LaunchPlan.prepare command view = .ok plan)
    (hf : kernel.fork system = (.ok (), forked)) :
    launch kernel table system command view =
      let (ending, last) := Child.live kernel ⟨forked, table⟩ plan
      (.ok (.code (waitFor ending (kernel.waitErrors last ending))), last) := by
  simp only [launch, hw, hp, hf, Bool.false_eq_true, ↓reduceIte]

theorem launch_of_unforked {cause : Errno} (hw : command.isEmpty = false)
    (hp : LaunchPlan.prepare command view = .ok plan)
    (hf : kernel.fork system = (.error cause, forked)) :
    launch kernel table system command view = (.error (.fork cause), forked) := by
  simp only [launch, hw, hp, hf, Bool.false_eq_true, ↓reduceIte]

end Launches

theorem launch_observed (kernel : Kernel κ φ) (table : Descriptors φ) (system : Observed κ φ)
    (command : Command) (view : View) :
    launch kernel table system.base command view =
      ((launch kernel.observed table system command view).1,
        (launch kernel.observed table system command view).2.base) := by
  cases hw : command.isEmpty with
  | true =>
    unfold launch
    rw [if_pos hw, if_pos hw]
  | false =>
    cases hp : LaunchPlan.prepare command view with
    | error cause => simp only [launch, hw, hp, Bool.false_eq_true, ↓reduceIte]
    | ok plan =>
      rcases hf : kernel.fork system.base with ⟨answer, base⟩
      have ho := Kernel.fork_observed hf
      cases answer with
      | error cause => rw [launch_of_unforked hw hp hf, launch_of_unforked hw hp ho]
      | ok =>
        rw [launch_of_forked hw hp hf, launch_of_forked hw hp ho]
        have h := Child.live_observed kernel
          ⟨⟨base, system.calls ++ [.forked (.ok ())]⟩, table⟩ plan
        dsimp only [Child.unobserved] at h
        rw [h]
        rfl

end LineShell
