import LineShell.Proofs.Session.Effect
import LineShell.Proofs.Store.Lawful

/-!
# The history of a variable

`Session.Assigns` says of a line, parsed under given variables, that it gives a variable a value.
Such a line sets that variable and no other, and every other line leaves all of them as they are
(`runLine_store`). After any lines a variable has the value that the last line to assign it gave
it, and the value from before if there is no such line (`get_after_last`).
-/

namespace LineShell

variable {σ κ ω : Type}

/-- The word gives a variable a value: it is cut at its first equals sign into a name and a value,
neither of which is empty, and it has no NUL. -/
structure Binds (word name value : Bytes) : Prop where
  word_eq : word = name ++ Bytes.equals :: value
  equals_not_mem : Bytes.equals ∉ name
  name_ne_nil : name ≠ []
  value_ne_nil : value ≠ []
  noNul : word.hasNul = false

/-! ## Words that give a variable a value -/

theorem binds_iff {word name value : Bytes} :
    Binds word name value ↔
      cutAt Bytes.equals word = some (name, value) ∧ Store.accepts name value ∧ value ≠ [] := by
  rw [Store.accepts_iff]
  constructor
  · rintro ⟨rfl, he, hn, hv, h0⟩
    exact ⟨cutAt_append value he, ⟨hn, he, h0⟩, hv⟩
  · rintro ⟨hc, ⟨hn, he, h0⟩, hv⟩
    obtain ⟨rfl, _⟩ := cutAt_eq_some hc
    exact ⟨rfl, he, hn, hv, h0⟩

theorem Standard.equals_not_mem_name (command : Standard) : Bytes.equals ∉ command.name := by
  cases command <;> decide

/-- A word with an equals sign does not name a built-in command. -/
theorem Standard.ofName?_eq_none {word : Bytes} (h : Bytes.equals ∈ word) :
    ofName? word = none := by
  refine Option.eq_none_iff_forall_ne_some.2 fun command hc => ?_
  rw [ofName?_eq_some_iff.1 hc] at h
  exact command.equals_not_mem_name h

theorem Registry.assignment?_eq {word name value : Bytes}
    (hc : cutAt Bytes.equals word = some (name, value)) (hn : name ≠ []) :
    assignment? word = some (name, value) := by
  unfold assignment?
  rw [hc, Option.filter_some, if_pos]
  simpa using hn

namespace Binds

variable {word name value : Bytes}

theorem ofName?_eq_none (h : Binds word name value) : Standard.ofName? word = none := by
  refine Standard.ofName?_eq_none ?_
  rw [h.word_eq]
  exact List.mem_append_right _ List.mem_cons_self

theorem assignment?_eq (h : Binds word name value) :
    Registry.assignment? word = some (name, value) :=
  Registry.assignment?_eq (binds_iff.1 h).1 h.name_ne_nil

theorem not_isEmpty (h : Binds word name value) : ¬ (name.isEmpty || value.isEmpty) := by
  simp only [Bool.or_eq_true, List.isEmpty_iff, not_or]
  exact ⟨h.name_ne_nil, h.value_ne_nil⟩

theorem of_assignment? (h : Registry.assignment? word = some (name, value))
    (ha : Store.accepts name value) (hv : value ≠ []) : Binds word name value := by
  unfold Registry.assignment? at h
  exact binds_iff.2 ⟨(Option.filter_eq_some_iff.1 h).1, ha, hv⟩

end Binds

/-! ## Actions that set a variable -/

/-- The action sets the variable. -/
inductive Action.Sets : Action → Bytes → Bytes → Prop where
  | assign {name value : Bytes} : Store.accepts name value → value ≠ [] →
      Sets (.assign name value) name value
  | exported {word name value : Bytes} (rest : List Bytes) : Binds word name value →
      Sets (.run .exportVar (word :: rest)) name value

variable [Store σ]

section
variable [LawfulStore σ]

theorem Scene.assign_of_accepted {scene : Scene σ ω} {name value : Bytes}
    (ha : Store.accepts name value) (hv : value ≠ []) :
    Store.set scene.store name value = .ok (scene.assign name value).store := by
  obtain ⟨after, hs, _⟩ := LawfulStore.set_of_accepted scene.store ha
  unfold Scene.assign
  rw [if_neg (by rwa [List.isEmpty_iff]), hs]

theorem Scene.assign_store (scene : Scene σ ω) (name value : Bytes) :
    (scene.assign name value).store = scene.store ∨ Store.accepts name value ∧ value ≠ [] := by
  unfold Scene.assign
  split
  · exact .inl rfl
  · rename_i hv
    split
    · rename_i hs
      exact .inr ⟨Store.accepts_of_set_ok hs, by rwa [List.isEmpty_iff] at hv⟩
    · exact .inl rfl

theorem Builtin.exportVar_of_binds {word name value : Bytes} (host : Host κ ω) (system : κ)
    (rest : List Bytes) (scene : Scene σ ω) (h : Binds word name value) :
    Store.set scene.store name value =
      .ok (Builtin.exportVar.run host system (word :: rest) scene).2.store := by
  obtain ⟨hc, ha, -⟩ := binds_iff.1 h
  obtain ⟨after, hs, _⟩ := LawfulStore.set_of_accepted scene.store ha
  dsimp only [Builtin.exportVar]
  rw [List.head?_cons, Option.bind_some, hc]
  dsimp only
  rw [if_neg h.not_isEmpty, hs]

theorem Builtin.exportVar_store (host : Host κ ω) (system : κ) (args : List Bytes)
    (scene : Scene σ ω) :
    (Builtin.exportVar.run host system args scene).2.store = scene.store ∨
      ∃ name value, Action.Sets (.run .exportVar args) name value := by
  dsimp only [Builtin.exportVar]
  split
  · exact .inl rfl
  · rename_i name value hc
    split
    · exact .inl rfl
    · rename_i he
      split
      · rename_i hs
        obtain ⟨word, hw, hc⟩ := Option.bind_eq_some_iff.1 hc
        obtain ⟨rest, rfl⟩ := List.head?_eq_some_iff.1 hw
        simp only [Bool.or_eq_true, List.isEmpty_iff, not_or] at he
        exact .inr ⟨name, value, .exported rest
          (binds_iff.2 ⟨hc, Store.accepts_of_set_ok hs, he.2⟩)⟩
      · exact .inl rfl

end

namespace Session

section
variable [LawfulStore σ]

theorem perform_of_sets {action : Action} {name value : Bytes} (session : Session σ κ ω)
    (shell : Shell σ κ ω) (h : action.Sets name value) :
    Store.set shell.store name value = .ok (session.perform shell action).2.store := by
  cases h with
  | assign ha hv => exact Scene.assign_of_accepted ha hv
  | exported rest hb =>
    rw [perform_run, Shell.conclude_store]
    exact Builtin.exportVar_of_binds _ _ rest _ hb

theorem perform_store (session : Session σ κ ω) (shell : Shell σ κ ω) (action : Action) :
    (session.perform shell action).2.store = shell.store ∨
      ∃ name value, action.Sets name value := by
  cases action with
  | refuse cause => exact .inl rfl
  | nothing => exact .inl rfl
  | run command args =>
    rw [perform_run, Shell.conclude_store]
    by_cases hc : command = .exportVar
    · subst hc
      exact Builtin.exportVar_store _ _ args _
    · exact .inl ((command.effect_run _ _ _ args _).store_eq hc)
  | assign name value =>
    rcases shell.toScene.assign_store name value with h | ⟨ha, hv⟩
    · exact .inl h
    · exact .inr ⟨name, value, .assign ha hv⟩
  | launch command =>
    dsimp only [perform]
    rw [Shell.conclude_store]
    exact .inl rfl

end

/-! ## Lines -/

/-- Under these variables the line assigns the value to the name: it has no redirection, and its
only word, or the word after `export`, gives the name this value. -/
def Assigns (session : Session σ κ ω) (store : σ) (line name value : Bytes) : Prop :=
  ∃ command word, session.parse store line = .ok command ∧ command.redirections = [] ∧
    (command.texts = [word] ∨ ∃ rest, command.texts = bytes "export" :: word :: rest) ∧
      Binds word name value

theorem assigns_iff {session : Session σ κ ω} {store : σ} {line name value : Bytes} :
    session.Assigns store line name value ↔ (session.action store line).Sets name value := by
  constructor
  · rintro ⟨command, word, hp, hr, ht | ⟨rest, ht⟩, hb⟩
    · have ha : session.action store line = .assign name value :=
        action_eq_assign_iff.2 ⟨command, word, hp, hr, ht, hb.ofName?_eq_none, hb.assignment?_eq⟩
      obtain ⟨_, hs, hv⟩ := binds_iff.1 hb
      rw [ha]
      exact .assign hs hv
    · have ha : session.action store line = .run .exportVar (word :: rest) :=
        action_eq_run_iff.2 ⟨command, hp, hr, ht⟩
      rw [ha]
      exact .exported rest hb
  · intro h
    generalize ha : session.action store line = action at h
    cases h with
    | assign hs hv =>
      obtain ⟨command, word, hp, hr, ht, _, hw⟩ := action_eq_assign_iff.1 ha
      exact ⟨command, word, hp, hr, .inl ht, .of_assignment? hw hs hv⟩
    | exported rest hb =>
      obtain ⟨command, hp, hr, ht⟩ := action_eq_run_iff.1 ha
      exact ⟨command, _, hp, hr, .inr ⟨rest, ht⟩, hb⟩

/-- A line assigns at most one value to at most one name. -/
theorem assigns_unique {session : Session σ κ ω} {store : σ} {line n m v w : Bytes}
    (h : session.Assigns store line n v) (h' : session.Assigns store line m w) :
    n = m ∧ v = w := by
  rw [assigns_iff] at h h'
  generalize session.action store line = action at h h'
  cases h with
  | assign _ _ =>
    cases h'
    exact ⟨rfl, rfl⟩
  | exported rest hb =>
    cases h' with
    | exported _ hb' =>
      have hc := (binds_iff.1 hb).1
      rw [(binds_iff.1 hb').1] at hc
      cases hc
      exact ⟨rfl, rfl⟩

/-- A line sets the variable that it assigns, and does not touch the store if it assigns none. -/
theorem runLine_store [LawfulStore σ] (session : Session σ κ ω) (shell : Shell σ κ ω)
    (line : Bytes) :
    (∃ name value, session.Assigns shell.store line name value ∧
        Store.set shell.store name value = .ok (session.runLine shell line).2.store) ∨
      (∀ name value, ¬ session.Assigns shell.store line name value) ∧
        (session.runLine shell line).2.store = shell.store := by
  rw [runLine_eq_perform]
  simp only [assigns_iff]
  by_cases h : ∃ name value, (session.action shell.store line).Sets name value
  · obtain ⟨name, value, hs⟩ := h
    exact .inl ⟨name, value, hs, session.perform_of_sets shell hs⟩
  · refine .inr ⟨fun name value hs => h ⟨name, value, hs⟩, ?_⟩
    exact (session.perform_store shell _).resolve_right h

/-! ## Sessions -/

/-- The shell after the lines, run in order, whatever they come to. -/
def after (session : Session σ κ ω) (shell : Shell σ κ ω) : List Bytes → Shell σ κ ω
  | [] => shell
  | line :: rest => session.after (session.runLine shell line).2 rest

section
variable [LawfulStore σ] {Holds : σ → Prop} {shell : Shell σ κ ω}

/-- A property of stores that setting a variable preserves is preserved by every line. -/
theorem runLine_preserves
    (hs : ∀ {store next : σ} {name value : Bytes}, Holds store →
      Store.set store name value = .ok next → Holds next)
    (session : Session σ κ ω) (line : Bytes) (h : Holds shell.store) :
    Holds (session.runLine shell line).2.store := by
  rcases session.runLine_store shell line with ⟨name, value, _, hset⟩ | ⟨_, hsame⟩
  · exact hs h hset
  · rw [hsame]
    exact h

theorem after_preserves
    (hs : ∀ {store next : σ} {name value : Bytes}, Holds store →
      Store.set store name value = .ok next → Holds next)
    (session : Session σ κ ω) (lines : List Bytes) (h : Holds shell.store) :
    Holds (session.after shell lines).store := by
  induction lines generalizing shell with
  | nil => exact h
  | cons line rest ih => exact ih (session.runLine_preserves hs line h)

end

/-- The line at position `i` does this in the shell of its moment. -/
def At (session : Session σ κ ω) (shell : Shell σ κ ω) (lines : List Bytes) (i : Nat)
    (Does : Shell σ κ ω → Bytes → Prop) : Prop :=
  ∃ line, lines[i]? = some line ∧ Does (session.after shell (lines.take i)) line

section
variable {session : Session σ κ ω} {shell : Shell σ κ ω} {line : Bytes} {rest : List Bytes}
  {Does : Shell σ κ ω → Bytes → Prop}

theorem not_at_nil {i : Nat} : ¬ session.At shell [] i Does := by
  rintro ⟨line, hl, _⟩
  cases hl

theorem at_zero : session.At shell (line :: rest) 0 Does ↔ Does shell line := by
  constructor
  · rintro ⟨_, hl, h⟩
    cases hl
    exact h
  · intro h
    exact ⟨line, rfl, h⟩

theorem at_succ {i : Nat} :
    session.At shell (line :: rest) (i + 1) Does ↔
      session.At (session.runLine shell line).2 rest i Does :=
  Iff.rfl

end

/-- What is read of a shell is what the last line to set it has set, if every line either sets it
or leaves it as it is. -/
theorem latest_after {α β : Type} (session : Session σ κ ω)
    (Sets : Shell σ κ ω → Bytes → α → Prop) (read : Shell σ κ ω → β) (put : α → β)
    (hs : ∀ shell line,
      (∃ value, Sets shell line value ∧ read (session.runLine shell line).2 = put value) ∨
        (∀ value, ¬ Sets shell line value) ∧ read (session.runLine shell line).2 = read shell)
    (shell : Shell σ κ ω) (lines : List Bytes) :
    (∃ value, (∃ i, session.At shell lines i (Sets · · value) ∧
        ∀ j, i < j → ∀ other, ¬ session.At shell lines j (Sets · · other)) ∧
      read (session.after shell lines) = put value) ∨
    (∀ i value, ¬ session.At shell lines i (Sets · · value)) ∧
      read (session.after shell lines) = read shell := by
  induction lines generalizing shell with
  | nil => exact .inr ⟨fun i value => not_at_nil, rfl⟩
  | cons line rest ih =>
    rcases ih (session.runLine shell line).2 with ⟨value, ⟨i, hi, hl⟩, hr⟩ | ⟨hn, hr⟩
    · refine .inl ⟨value, ⟨i + 1, at_succ.2 hi, fun j hj other => ?_⟩, hr⟩
      obtain ⟨j, rfl⟩ := Nat.exists_eq_succ_of_ne_zero (Nat.ne_zero_of_lt hj)
      rw [at_succ]
      exact hl j (Nat.lt_of_succ_lt_succ hj) other
    · -- nothing after the first line sets it, so the first line decides
      rcases hs shell line with ⟨value, hv, hp⟩ | ⟨hf, hk⟩
      · refine .inl ⟨value, ⟨0, at_zero.2 hv, fun j hj other => ?_⟩, hr.trans hp⟩
        obtain ⟨j, rfl⟩ := Nat.exists_eq_succ_of_ne_zero (Nat.ne_zero_of_lt hj)
        rw [at_succ]
        exact hn j other
      · refine .inr ⟨fun i other => ?_, hr.trans hk⟩
        cases i with
        | zero => exact fun h => hf other (at_zero.1 h)
        | succ i => exact fun h => hn i other (at_succ.1 h)

/-- The line at position `i`, parsed under the variables of its moment, assigns the value. -/
def AssignsAt (session : Session σ κ ω) (shell : Shell σ κ ω) (lines : List Bytes) (i : Nat)
    (name value : Bytes) : Prop :=
  ∃ line, lines[i]? = some line ∧
    session.Assigns (session.after shell (lines.take i)).store line name value

section
variable {session : Session σ κ ω} {shell : Shell σ κ ω} {line : Bytes} {rest : List Bytes}
  {name value : Bytes}

theorem assignsAt_iff_at {lines : List Bytes} {i : Nat} :
    session.AssignsAt shell lines i name value ↔
      session.At shell lines i fun now line => session.Assigns now.store line name value :=
  Iff.rfl

theorem not_assignsAt_nil {i : Nat} : ¬ session.AssignsAt shell [] i name value :=
  mt assignsAt_iff_at.1 not_at_nil

theorem assignsAt_zero :
    session.AssignsAt shell (line :: rest) 0 name value ↔
      session.Assigns shell.store line name value :=
  assignsAt_iff_at.trans at_zero

theorem assignsAt_succ {i : Nat} :
    session.AssignsAt shell (line :: rest) (i + 1) name value ↔
      session.AssignsAt (session.runLine shell line).2 rest i name value :=
  assignsAt_iff_at.trans at_succ

end

/-- The last of the lines to assign the name anything assigns it the value. -/
def LastAssigns (session : Session σ κ ω) (shell : Shell σ κ ω) (lines : List Bytes)
    (name value : Bytes) : Prop :=
  ∃ i, session.AssignsAt shell lines i name value ∧
    ∀ j, i < j → ∀ other, ¬ session.AssignsAt shell lines j name other

theorem get_after [LawfulStore σ] (session : Session σ κ ω) (shell : Shell σ κ ω)
    (lines : List Bytes) (name : Bytes) :
    (∃ value, session.LastAssigns shell lines name value ∧
        Store.get (session.after shell lines).store name = some value) ∨
      (∀ i value, ¬ session.AssignsAt shell lines i name value) ∧
        Store.get (session.after shell lines).store name = Store.get shell.store name := by
  refine session.latest_after (fun now line value => session.Assigns now.store line name value)
    (fun now => Store.get now.store name) some (fun now line => ?_) shell lines
  rcases session.runLine_store now line with ⟨name', value, ha, hs⟩ | ⟨hn, hs⟩
  · have hv := Store.get_of_set_ok hs name
    by_cases hname : name = name'
    · subst hname
      rw [if_pos rfl] at hv
      exact .inl ⟨value, ha, hv⟩
    · rw [if_neg hname] at hv
      exact .inr ⟨fun other ho => hname (assigns_unique ho ha).1, hv⟩
  · exact .inr ⟨hn name, by rw [hs]⟩

/-- **The history of a variable.** After any lines a variable has the value that the last line to
assign it gave it, or the value or absence from before if no line does. No line does anything else
to the variables: one that assigns sets a single variable, to a value that is not empty, and all
others leave the store as it is. -/
theorem get_after_last [LawfulStore σ] (session : Session σ κ ω) (shell : Shell σ κ ω)
    (lines : List Bytes) (name : Bytes) :
    ((∃ value, session.LastAssigns shell lines name value ∧
        Store.get (session.after shell lines).store name = some value) ∨
      (∀ i value, ¬ session.AssignsAt shell lines i name value) ∧
        Store.get (session.after shell lines).store name = Store.get shell.store name) ∧
    ∀ line, (∃ assigned value, session.Assigns shell.store line assigned value ∧ value ≠ [] ∧
        ∀ n, Store.get (session.runLine shell line).2.store n =
          if n = assigned then some value else Store.get shell.store n) ∨
      (∀ assigned value, ¬ session.Assigns shell.store line assigned value) ∧
        (session.runLine shell line).2.store = shell.store := by
  refine ⟨session.get_after shell lines name, fun line => ?_⟩
  refine (session.runLine_store shell line).imp_left ?_
  rintro ⟨assigned, value, ha, hs⟩
  have hv : value ≠ [] := by
    obtain ⟨_, _, _, _, _, hb⟩ := ha
    exact hb.value_ne_nil
  exact ⟨assigned, value, ha, hv, Store.get_of_set_ok hs⟩

/-- Of these lines only the second assigns: there is more after the word, but no redirection. -/
theorem get_after_last_export :
    let host : Host Unit Unit := .idle
    let session : Session Table Unit Unit := ⟨host, {}⟩
    let shell : Shell Table Unit Unit :=
      ⟨⟨Table.empty.put (bytes "A") (bytes "0"), (), .ofLimit none, .ofLimit none⟩, (), 0⟩
    let lines := [bytes "A=1 ls", bytes "export A=$A=2 A=3", bytes "export A=", bytes "A=4 > f",
      bytes "ls A=5"]
    session.LastAssigns shell lines (bytes "A") (bytes "0=2") ∧
      Store.get (session.after shell lines).store (bytes "A") = some (bytes "0=2") := by
  intro host session shell lines
  have hg : Store.get (session.after shell lines).store (bytes "A") = some (bytes "0=2") := by
    decide +kernel
  rcases (session.get_after_last shell lines (bytes "A")).1 with ⟨value, hl, hv⟩ | ⟨_, hv⟩
  · rw [hg] at hv
    cases hv
    exact ⟨hl, hg⟩
  · rw [hg] at hv
    cases hv

end Session

end LineShell
