import LineShell.Proofs.Session.History
import LineShell.Proofs.Session.Routing
import LineShell.Proofs.Text.Utf8
import LineShell.Store.Table
import Mathlib.Data.List.Induction

/-!
# What a name resolves to

The history of a registry is the list of the built-ins that have been registered, the standard ones
first. A name stands for the last of them that has it (`LastNamed`), and `Resolves` says what
becomes of a command that is offered to the registry (`dispatch_iff_resolves`).
-/

namespace LineShell

variable {σ κ ω : Type}

/-- The command has this name, and none that comes after it in the history does. -/
def LastNamed (history : List (Builtin σ κ ω)) (name : Bytes) (command : Builtin σ κ ω) : Prop :=
  command.name.utf8 = name ∧ ∃ before after, history = before ++ command :: after ∧
    ∀ later ∈ after, later.name.utf8 ≠ name

section
variable [Store σ]

/-- The scene after an assignment. An empty value is not assigned, and that the store refuses one is
only reported. -/
inductive Assigned (scene : Scene σ ω) (name : Bytes) : Bytes → Scene σ ω → Prop where
  | ignored : Assigned scene name [] scene
  | set {value : Bytes} {store : σ} : value ≠ [] → Store.set scene.store name value = .ok store →
      Assigned scene name value { scene with store }
  | refused {value : Bytes} {cause : Errno} : value ≠ [] →
      Store.set scene.store name value = .error cause →
      Assigned scene name value
        (scene.report ("variable assignment failed: ".toList ++ cause.desc))

/-- What becomes of the words of a command. The built-in that the first one stands for runs, once
and on the other words. If it stands for none, a lone word NAME=VALUE is an assignment, and all
other words are left to others, with the scene as it is. -/
inductive Resolves (history : List (Builtin σ κ ω)) (host : Host κ ω) (system : κ)
    (scene : Scene σ ω) : List Bytes → Option Status × Scene σ ω → Prop where
  | command {name : Bytes} {args : List Bytes} {command : Builtin σ κ ω} {status : Status}
      {after : Scene σ ω} :
      LastNamed history name command → command.run host system args scene = (status, after) →
      Resolves history host system scene (name :: args) (some status, after)
  | assignment {name value : Bytes} {after : Scene σ ω} :
      (∀ command ∈ history, command.name.utf8 ≠ name ++ Bytes.equals :: value) →
      name ≠ [] → Bytes.equals ∉ name → Assigned scene name value after →
      Resolves history host system scene [name ++ Bytes.equals :: value]
        (some (.ok .unchanged), after)
  | outside {name : Bytes} {args : List Bytes} :
      (∀ command ∈ history, command.name.utf8 ≠ name) →
      args ≠ [] ∨ Bytes.equals ∉ name ∨ name.head? = some Bytes.equals →
      Resolves history host system scene (name :: args) (none, scene)

theorem assigned_iff {scene after : Scene σ ω} {name value : Bytes} :
    Assigned scene name value after ↔ after = scene.assign name value := by
  unfold Scene.assign
  constructor
  · intro h
    cases h with
    | ignored => rfl
    | set hv hs => rw [if_neg (by simpa using hv), hs]
    | refused hv hs => rw [if_neg (by simpa using hv), hs]
  · rintro rfl
    by_cases hv : value = []
    · subst hv
      exact .ignored
    · rw [if_neg (by simpa using hv)]
      split
      · rename_i hs
        exact .set hv hs
      · rename_i hs
        exact .refused hv hs

end

/-! ## One more built-in -/

theorem lastNamed_concat_iff {history : List (Builtin σ κ ω)} {added command : Builtin σ κ ω}
    {name : Bytes} : LastNamed (history ++ [added]) name command ↔
      if added.name.utf8 = name then added = command else LastNamed history name command := by
  constructor
  · rintro ⟨hn, before, after, he, hl⟩
    rcases List.eq_nil_or_concat' after with rfl | ⟨front, last, rfl⟩
    · obtain ⟨_, h⟩ := List.append_inj' he rfl
      cases h
      rw [if_pos hn]
    · rw [← List.cons_append, ← List.append_assoc] at he
      obtain ⟨hh, h⟩ := List.append_inj' he rfl
      cases h
      rw [if_neg (hl added (List.mem_append_right _ List.mem_cons_self))]
      exact ⟨hn, before, front, hh, fun later hm => hl later (List.mem_append_left _ hm)⟩
  · intro h
    split at h
    · rename_i hn
      subst h
      exact ⟨hn, history, [], rfl, fun _ hm => absurd hm List.not_mem_nil⟩
    · rename_i hn
      obtain ⟨hc, before, after, rfl, hl⟩ := h
      refine ⟨hc, before, after ++ [added], by simp, ?_⟩
      rw [List.forall_mem_append]
      exact ⟨hl, List.forall_mem_singleton.2 hn⟩

namespace Registry

/-- The built-ins of the standard registry, in the order in which they are registered. -/
def defaults [Store σ] (config : Config) : List (Builtin σ κ ω) :=
  [Builtin.exit config.farewell, .changeDir, .printDir, .echo, .exportVar]

/-- A command that is registered settles what its own name stands for, and no other name. -/
theorem find?_register (registry : Registry σ κ ω) (added : Builtin σ κ ω) (name : Bytes) :
    (registry.register added).find? name =
      if added.name.utf8 = name then some added else registry.find? name := by
  unfold find? register
  rw [List.find?_cons]
  by_cases hn : added.name.utf8 = name
  · simp only [hn, decide_true, ↓reduceIte]
  · simp only [hn, decide_false, ↓reduceIte]

/-! ## Histories -/

section
variable {history : List (Builtin σ κ ω)} {name : Bytes}

theorem find?_foldl_eq_some_iff {command : Builtin σ κ ω} :
    (history.foldl register empty).find? name = some command ↔ LastNamed history name command := by
  induction history using List.reverseRecOn with
  | nil => simp [find?, empty, LastNamed]
  | append_singleton history added ih =>
    rw [List.foldl_concat, find?_register, lastNamed_concat_iff]
    split
    · exact Option.some_inj
    · exact ih

theorem find?_foldl_eq_none_iff :
    (history.foldl register empty).find? name = none ↔
      ∀ command ∈ history, command.name.utf8 ≠ name := by
  induction history using List.reverseRecOn with
  | nil => simp [find?, empty]
  | append_singleton history added ih =>
    rw [List.foldl_concat, find?_register, List.forall_mem_append, List.forall_mem_singleton]
    split
    · rename_i hn
      exact iff_of_false (Option.some_ne_none _) fun h => h.2 hn
    · rename_i hn
      exact ih.trans (and_iff_left hn).symm

end

theorem assignment?_eq_some_iff {word name value : Bytes} :
    assignment? word = some (name, value) ↔
      word = name ++ Bytes.equals :: value ∧ name ≠ [] ∧ Bytes.equals ∉ name := by
  constructor
  · intro h
    obtain ⟨hc, hn⟩ := Option.filter_eq_some_iff.1 h
    obtain ⟨he, hm⟩ := cutAt_eq_some hc
    exact ⟨he, by simpa using hn, hm⟩
  · rintro ⟨rfl, hn, hm⟩
    exact assignment?_eq (cutAt_append value hm) hn

/-! ## Commands -/

section
variable [Store σ] {registry : Registry σ κ ω} {host : Host κ ω} {system : κ} {name : Bytes}
  {args : List Bytes} {scene : Scene σ ω}

theorem dispatch_of_find? {command : Builtin σ κ ω} (h : registry.find? name = some command) :
    registry.dispatch host system (name :: args) scene =
      (some (command.run host system args scene).1, (command.run host system args scene).2) := by
  unfold dispatch
  dsimp only
  rw [h]

theorem dispatch_of_assignment? {assigned value : Bytes} (h : registry.find? name = none)
    (ha : assignment? name = some (assigned, value)) :
    registry.dispatch host system [name] scene =
      (some (.ok .unchanged), scene.assign assigned value) := by
  unfold dispatch
  dsimp only
  rw [h, ha]

theorem dispatch_of_none (h : registry.find? name = none)
    (ha : args ≠ [] ∨ assignment? name = none) :
    registry.dispatch host system (name :: args) scene = (none, scene) := by
  unfold dispatch
  dsimp only
  rw [h]
  cases args with
  | nil => rw [ha.resolve_left fun hn => hn rfl]
  | cons arg args => rfl

/-- A command of another name is not in the way. -/
theorem dispatch_register_of_ne {added : Builtin σ κ ω} (h : added.name.utf8 ≠ name) :
    (registry.register added).dispatch host system (name :: args) scene =
      registry.dispatch host system (name :: args) scene := by
  unfold dispatch
  dsimp only
  rw [find?_register, if_neg h]

end

section
variable [Store σ] {history : List (Builtin σ κ ω)} {host : Host κ ω} {system : κ}
  {scene : Scene σ ω}

theorem dispatch_of_resolves {words : List Bytes} {result : Option Status × Scene σ ω}
    (h : Resolves history host system scene words result) :
    (history.foldl register empty).dispatch host system words scene = result := by
  cases h with
  | command hl hr => rw [dispatch_of_find? (find?_foldl_eq_some_iff.2 hl), hr]
  | @assignment name value _ hf hn hm ha =>
    rw [assigned_iff.1 ha]
    have hw : assignment? (name ++ Bytes.equals :: value) = some (name, value) :=
      assignment?_eq_some_iff.2 ⟨rfl, hn, hm⟩
    exact dispatch_of_assignment? (find?_foldl_eq_none_iff.2 hf) hw
  | outside hf ho =>
    refine dispatch_of_none (find?_foldl_eq_none_iff.2 hf) (ho.imp_right fun ho => ?_)
    rw [assignment?_eq_none_iff, not_and_or, not_not]
    exact ho

theorem resolves_dispatch (name : Bytes) (args : List Bytes) :
    Resolves history host system scene (name :: args)
      ((history.foldl register empty).dispatch host system (name :: args) scene) := by
  cases hf : (history.foldl register empty).find? name with
  | some command =>
    rw [dispatch_of_find? hf]
    exact .command (find?_foldl_eq_some_iff.1 hf) rfl
  | none =>
    have hh : ∀ command ∈ history, command.name.utf8 ≠ name := find?_foldl_eq_none_iff.1 hf
    by_cases ho : args ≠ [] ∨ assignment? name = none
    · rw [dispatch_of_none hf ho]
      refine .outside hh (ho.imp_right fun ha => ?_)
      rwa [assignment?_eq_none_iff, not_and_or, not_not] at ha
    · rw [not_or, not_not] at ho
      obtain ⟨rfl, ha⟩ := ho
      obtain ⟨⟨assigned, value⟩, ha⟩ := Option.ne_none_iff_exists'.1 ha
      rw [dispatch_of_assignment? hf ha]
      obtain ⟨rfl, hn, hm⟩ := assignment?_eq_some_iff.1 ha
      exact .assignment hh hn hm (assigned_iff.2 rfl)

end

/-- **What a name resolves to.** Whatever has been registered after the standard built-ins, a
command comes to what `Resolves` says, and to nothing else. A word is the name of a built-in if it
is read as exactly that text, so bytes that are no text name none. One more built-in changes what
its own name stands for and nothing else. -/
theorem dispatch_iff_resolves [Store σ] (config : Config) (registered : List (Builtin σ κ ω))
    (host : Host κ ω) (system : κ) (name : Bytes) (args : List Bytes) (scene : Scene σ ω) :
    let history := defaults config ++ registered
    let registry := registered.foldl register (standard config)
    (∀ result, registry.dispatch host system (name :: args) scene = result ↔
      Resolves history host system scene (name :: args) result) ∧
    (∀ command : Builtin σ κ ω, command.name.utf8 = name ↔
      Text.decode name = some command.name) ∧
    ∀ added : Builtin σ κ ω, added.name.utf8 ≠ name →
      (registry.register added).dispatch host system (name :: args) scene =
        registry.dispatch host system (name :: args) scene := by
  intro history registry
  have hr : registry = history.foldl register empty := List.foldl_append.symm
  refine ⟨fun result => ?_, fun command => ?_, fun added hn => ?_⟩
  · rw [hr]
    constructor
    · rintro rfl
      exact resolves_dispatch name args
    · exact dispatch_of_resolves
  · rw [Text.decode_eq_some_iff]
    exact eq_comm
  · exact dispatch_register_of_ne hn

/-- A name that could be an assignment and is registered twice, one that could be an assignment and
is not registered, and one that is no text. -/
theorem dispatch_iff_resolves_overridden :
    let host : Host Unit Unit := .idle
    let speaker (name word : String) : Builtin Table Unit Unit :=
      ⟨name.toList, fun _ _ args scene => scene.print (join Bytes.space (bytes word :: args))⟩
    let registered := [speaker "A=1" "first", speaker "echo" "second", speaker "A=1" "third"]
    let history := defaults {} ++ registered
    let registry := registered.foldl register (standard {})
    let scene : Scene Table Unit := ⟨Table.empty, (), .ofLimit none, .ofLimit none⟩
    (Resolves history host () scene [bytes "A=1", bytes "B=2"]
        (some (.ok (.code 0)), { scene with out := ⟨bytes "third B=2", none⟩ }) ∧
      Resolves history host () scene [bytes "A=2"]
        (some (.ok .unchanged), { scene with store := Table.empty.put (bytes "A") (bytes "2") }) ∧
      Resolves history host () scene [[0xff]] (none, scene)) ∧
    Text.decode [0xff] = none ∧
    (speaker "A=2" "fourth").name.utf8 ≠ bytes "A=1" ∧
      (registry.register (speaker "A=2" "fourth")).dispatch host () [bytes "A=1"] scene =
        registry.dispatch host () [bytes "A=1"] scene := by
  intro host speaker registered history registry scene
  have hn : (speaker "A=2" "fourth").name.utf8 ≠ bytes "A=1" := by decide
  refine ⟨⟨?_, ?_, ?_⟩, by decide, hn, ?_⟩
  · exact ((dispatch_iff_resolves {} registered host () _ [bytes "B=2"] scene).1 _).1 rfl
  · exact ((dispatch_iff_resolves {} registered host () (bytes "A=2") [] scene).1 _).1 rfl
  · exact ((dispatch_iff_resolves {} registered host () [0xff] [] scene).1 _).1 rfl
  · exact (dispatch_iff_resolves {} registered host () (bytes "A=1") [] scene).2.2 _ hn

end Registry

end LineShell
