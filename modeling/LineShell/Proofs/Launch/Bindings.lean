import LineShell.Proofs.Launch.Calls
import Mathlib.Data.List.Forall2

/-!
# Binding the streams of a child

A file that is opened for a stream takes the stream's number and no other, wherever it was put
first (`at?_rebind`). So the streams of a child refer to what was opened last for them, and all
other numbers to what they referred to before (`Bound`). `Opens` says what a redirection asks for,
and `Complains` what a child says about one that fails. `live_binds` reads off what a child asks
for while it binds its streams, up to the first failure.
-/

namespace LineShell.Child

variable {κ φ : Type}

/-- The new file takes the number of the stream. The number at which it was put first is free
again, unless it is that of the stream. -/
theorem at?_rebind (table : Descriptors φ) (stream : Stream) (file : φ) (n : Nat) :
    (rebind table stream file).at? n =
      if n = stream.descriptor then some file else table.at? n := by
  unfold rebind
  dsimp only
  split
  · rename_i h
    rw [Descriptors.at?_put, h]
  · rename_i h
    rw [Descriptors.at?_put, Descriptors.at?_put, Descriptors.at?_put]
    by_cases hf : n = table.lowestFree
    · have hn : n ≠ stream.descriptor := hf ▸ h
      rw [if_pos hf, if_neg hn, hf, Descriptors.at?_lowestFree]
    · simp only [hf, ↓reduceIte]

example : rebind [none, some 1, some 2] .output 3 = [none, some 3, some 2] := rfl

/-- The request with which the target of a redirection is opened, and the number of its stream. -/
inductive Opens : Redirection → OpenRequest → Nat → Prop where
  | input (target : Bytes) : Opens ⟨.input, target⟩ {
      path := target
      flags := { reads := true, writes := false, creates := false, truncates := false }
      mode := 0o644 } 0
  | output (target : Bytes) : Opens ⟨.output, target⟩ {
      path := target
      flags := { reads := false, writes := true, creates := true, truncates := true }
      mode := 0o644 } 1
  | error (target : Bytes) : Opens ⟨.error, target⟩ {
      path := target
      flags := { reads := false, writes := true, creates := true, truncates := true }
      mode := 0o644 } 2

theorem opens_iff {redirection : Redirection} {request : OpenRequest} {number : Nat} :
    Opens redirection request number ↔
      request = redirection.request ∧ number = redirection.stream.descriptor := by
  constructor
  · rintro (target | target | target) <;> exact ⟨rfl, rfl⟩
  · rintro ⟨rfl, rfl⟩
    obtain ⟨stream, target⟩ := redirection
    cases stream with
    | input => exact .input target
    | output => exact .output target
    | error => exact .error target

/-- What a child says about a redirection that fails, because its target cannot be opened or
because the opened file cannot be put at the number of the stream. -/
inductive Complains (cause : Errno) : Redirection → Bool → Bytes → Prop where
  | input (target : Bytes) (opened : Bool) : Complains cause ⟨.input, target⟩ opened
      (bytes "cannot access " ++ target ++ bytes ": " ++ (cause.desc.utf8 ++ [Bytes.newline]))
  | output (target : Bytes) : Complains cause ⟨.output, target⟩ false
      (target ++ bytes ": " ++ (cause.desc.utf8 ++ [Bytes.newline]))
  | unmoved (target : Bytes) : Complains cause ⟨.output, target⟩ true
      (bytes "dup2 failed for stdout: " ++ (cause.desc.utf8 ++ [Bytes.newline]))
  | error (target : Bytes) (opened : Bool) : Complains cause ⟨.error, target⟩ opened
      (bytes "cannot create " ++ target ++ bytes ": " ++ (cause.desc.utf8 ++ [Bytes.newline]))

theorem complains_complaint (redirection : Redirection) (opened : Bool) (cause : Errno) :
    Complains cause redirection opened (complaint redirection opened cause) := by
  obtain ⟨stream, target⟩ := redirection
  unfold complaint
  cases stream with
  | input => exact .input target opened
  | error => exact .error target opened
  | output =>
    cases opened with
    | false => exact .output target
    | true => exact .unmoved target

/-- A file that has been opened for the stream with this number. -/
structure Opening (φ : Type) where
  number : Nat
  request : OpenRequest
  file : φ

def Opening.call (opening : Opening φ) : Call φ := .opened opening.request (.ok opening.file)

/-- Each redirection has been opened, once and in order. -/
def OpenedFor (redirections : List Redirection) (opened : List (Opening φ)) : Prop :=
  List.Forall₂ (fun redirection opening => Opens redirection opening.request opening.number)
    redirections opened

/-- What a table has become when files have been opened for streams, one after the other. -/
structure Bound (table : Descriptors φ) (opened : List (Opening φ)) (final : Descriptors φ) :
    Prop where
  /-- A stream refers to the file that was opened last for it. -/
  last {before after : List (Opening φ)} {opening : Opening φ} :
    opened = before ++ opening :: after → (∀ later ∈ after, later.number ≠ opening.number) →
      final.at? opening.number = some opening.file
  /-- Every other number refers to what it referred to before. -/
  other {number : Nat} : (∀ opening ∈ opened, opening.number ≠ number) →
    final.at? number = table.at? number

theorem Bound.nil (table : Descriptors φ) : Bound table [] table where
  last h := by simp at h
  other _ := rfl

theorem Bound.cons {table final : Descriptors φ} {redirection : Redirection} {file : φ}
    {opened : List (Opening φ)}
    (h : Bound (rebind table redirection.stream file) opened final) :
    Bound table (⟨redirection.stream.descriptor, redirection.request, file⟩ :: opened) final where
  last {before after opening} he ha := by
    cases before with
    | nil =>
      -- the redirection is the last one of its stream, so the rest of the table stays
      cases he
      rw [h.other ha, at?_rebind, if_pos rfl]
    | cons first before =>
      rw [List.cons_append, List.cons.injEq] at he
      exact h.last he.2 ha
  other {number} ho := by
    have hn := ho _ List.mem_cons_self
    rw [h.other fun opening hm => ho opening (List.mem_cons_of_mem _ hm), at?_rebind,
      if_neg (Ne.symm hn)]

/-- The requests of a child that fails to bind the stream of a redirection and says so, on whatever
the error stream is at that moment. Its target cannot be opened, or it has been opened at the lowest
free number and cannot be put at the number of the stream. -/
inductive GivesUp (kernel : Kernel κ φ) (table : Descriptors φ) (redirection : Redirection) :
    List (Call φ) → Prop where
  | unopened {request : OpenRequest} {number : Nat} {cause : Errno} {message : Bytes} :
      Opens redirection request number → Complains cause redirection false message →
      GivesUp kernel table redirection (.opened request (.error cause) ::
        (table.at? 2).toList.map (.wrote · message))
  | unmoved {request : OpenRequest} {number : Nat} {cause : Errno} {message : Bytes} {system : κ}
      (file : φ) :
      Opens redirection request number → Complains cause redirection true message →
      kernel.dupError system table.lowestFree number = some cause →
      GivesUp kernel table redirection (.opened request (.ok file) ::
        ((table.put table.lowestFree (some file)).at? 2).toList.map (.wrote · message))

variable {kernel : Kernel κ φ} {child ready last : Child (Observed κ φ) φ}

/-- A stream is bound by opening its target, at the lowest free number, and moving it. -/
theorem bind_eq_ok {redirection : Redirection}
    (h : bind kernel.observed child redirection = .ok ready) :
    ∃ file base, ready = ⟨⟨base, child.system.calls ++ [.opened redirection.request (.ok file)]⟩,
      rebind child.table redirection.stream file⟩ := by
  rcases hk : kernel.openFile child.system.base child.table redirection.request with
    ⟨answer, base⟩
  have ho := Kernel.openFile_observed hk
  cases answer with
  | error cause =>
    rw [bind_of_refused ho] at h
    cases h
  | ok file =>
    cases hd : kernel.dupError base child.table.lowestFree redirection.stream.descriptor with
    | none =>
      rw [bind_of_moved ho hd] at h
      cases h
      exact ⟨file, base, rfl⟩
    | some cause =>
      rw [bind_of_unmoved ho hd] at h
      cases h

theorem bind_eq_error {redirection : Redirection}
    (h : bind kernel.observed child redirection = .error last) :
    ∃ calls, GivesUp kernel child.table redirection calls ∧
      last.system.calls = child.system.calls ++ calls := by
  have hr : Opens redirection redirection.request redirection.stream.descriptor :=
    opens_iff.2 ⟨rfl, rfl⟩
  rcases hk : kernel.openFile child.system.base child.table redirection.request with
    ⟨answer, base⟩
  have ho := Kernel.openFile_observed hk
  cases answer with
  | error cause =>
    rw [bind_of_refused ho] at h
    cases h
    refine ⟨_, .unopened hr (complains_complaint redirection false cause), ?_⟩
    rw [complain_calls, List.append_assoc]
    rfl
  | ok file =>
    cases hd : kernel.dupError base child.table.lowestFree redirection.stream.descriptor with
    | none =>
      rw [bind_of_moved ho hd] at h
      cases h
    | some cause =>
      rw [bind_of_unmoved ho hd] at h
      cases h
      refine ⟨_, .unmoved file hr (complains_complaint redirection true cause) hd, ?_⟩
      exact (complain_calls _ _ _).trans (List.append_assoc ..)

theorem bindAll_of_ok {redirections : List Redirection}
    (h : bindAll kernel.observed child redirections = .ok ready) :
    ∃ opened, OpenedFor redirections opened ∧ Bound child.table opened ready.table ∧
      ready.system.calls = child.system.calls ++ opened.map Opening.call := by
  induction redirections generalizing child with
  | nil =>
    cases h
    exact ⟨[], .nil, .nil _, (List.append_nil _).symm⟩
  | cons redirection rest ih =>
    rw [bindAll] at h
    cases hb : bind kernel.observed child redirection with
    | error failed =>
      rw [hb] at h
      cases h
    | ok next =>
      rw [hb] at h
      obtain ⟨file, base, rfl⟩ := bind_eq_ok hb
      obtain ⟨opened, hm, ht, hc⟩ := ih h
      refine ⟨⟨_, _, file⟩ :: opened, .cons (opens_iff.2 ⟨rfl, rfl⟩) hm, ht.cons, ?_⟩
      rw [hc, List.map_cons, List.append_assoc]
      rfl

theorem bindAll_of_error {redirections : List Redirection}
    (h : bindAll kernel.observed child redirections = .error last) :
    ∃ done failing rest opened table calls, redirections = done ++ failing :: rest ∧
      OpenedFor done opened ∧ Bound child.table opened table ∧
      GivesUp kernel table failing calls ∧
      last.system.calls = child.system.calls ++ opened.map Opening.call ++ calls := by
  induction redirections generalizing child with
  | nil => cases h
  | cons redirection rest ih =>
    rw [bindAll] at h
    cases hb : bind kernel.observed child redirection with
    | error failed =>
      rw [hb] at h
      cases h
      obtain ⟨calls, hg, hc⟩ := bind_eq_error hb
      exact ⟨[], redirection, rest, [], child.table, calls, rfl, .nil, .nil _, hg, by
        rw [hc, List.map_nil, List.append_nil]⟩
    | ok next =>
      rw [hb] at h
      obtain ⟨file, base, rfl⟩ := bind_eq_ok hb
      obtain ⟨done, failing, rest', opened, table, calls, hr, hm, ht, hg, hc⟩ := ih h
      refine ⟨redirection :: done, failing, rest', ⟨_, _, file⟩ :: opened, table, calls, ?_,
        .cons (opens_iff.2 ⟨rfl, rfl⟩) hm, ht.cons, hg, ?_⟩
      · rw [hr, List.cons_append]
      · rw [hc, List.map_cons, List.append_assoc child.system.calls]
        rfl

/-! ## From the streams to the program -/

theorem search_bindings (kernel : Kernel κ φ) (child : Child κ φ) (plan : LaunchPlan)
    (bindings : List Redirection) (programs : List Bytes) :
    search kernel child { plan with bindings } programs = search kernel child plan programs := by
  induction programs generalizing child with
  | nil => rfl
  | cons program rest ih =>
    simp only [search, ih]
    rfl

/-- A child that has bound its streams goes on like one that has none to bind. -/
theorem live_of_bound {kernel : Kernel κ φ} {child ready : Child κ φ} {plan : LaunchPlan}
    (h : bindAll kernel child plan.bindings = .ok ready) :
    live kernel child plan = live kernel ready { plan with bindings := [] } := by
  unfold live
  rw [h]
  simp only [bindAll, search_bindings]
  rfl

theorem live_of_refused {kernel : Kernel κ φ} {child last : Child κ φ} {plan : LaunchPlan}
    (h : bindAll kernel child plan.bindings = .error last) :
    live kernel child plan = (.exited 1, last.system) := by
  unfold live
  rw [h]
  rfl

/-- **Redirections bind the streams of a child, up to the first that fails.** Either all targets are
opened, each once, in order and in the way of its stream, and the search for the program starts
with a table in which the streams refer to what was opened last for them and all else is as it was.
Or one stream cannot be bound: the targets before it have been opened, and the child says so on what
its error stream is by then and exits with 1, without a further request. -/
theorem live_binds (kernel : Kernel κ φ) (child : Child κ φ) (plan : LaunchPlan) :
    ∃ ending last, live kernel.observed child.observe plan = (ending, last) ∧
      live kernel child plan = (ending, last.base) ∧
      ((∃ opened ready, OpenedFor plan.bindings opened ∧ Bound child.table opened ready.table ∧
          ready.system.calls = opened.map Opening.call ∧
          live kernel.observed ready { plan with bindings := [] } = (ending, last)) ∨
        ∃ done failing rest opened table calls, plan.bindings = done ++ failing :: rest ∧
          OpenedFor done opened ∧ Bound child.table opened table ∧
          GivesUp kernel table failing calls ∧
          last.calls = opened.map Opening.call ++ calls ∧ ending = .exited 1) := by
  have hu := live_observed kernel child.observe plan
  rcases hl : live kernel.observed child.observe plan with ⟨ending, last⟩
  rw [hl] at hu
  refine ⟨ending, last, rfl, hu, ?_⟩
  cases hb : bindAll kernel.observed child.observe plan.bindings with
  | ok ready =>
    left
    obtain ⟨opened, hm, ht, hc⟩ := bindAll_of_ok hb
    rw [live_of_bound hb] at hl
    exact ⟨opened, ready, hm, ht, hc, hl⟩
  | error failed =>
    right
    obtain ⟨done, failing, rest, opened, table, calls, hr, hm, ht, hg, hc⟩ := bindAll_of_error hb
    rw [live_of_refused hb] at hl
    cases hl
    exact ⟨done, failing, rest, opened, table, calls, hr, hm, ht, hg, hc, rfl⟩

end LineShell.Child
