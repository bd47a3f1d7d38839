import LineShell.Store

/-!
# Variables in a table

`Table` keeps the names in the order in which they were first set, each with its value. A table
built from pairs takes them as they are; `set` refuses what no environment could hold.
-/

namespace LineShell

/-- Pairs of a name and a value, each name once. -/
structure Table where
  vars : List (Bytes × Bytes)
  distinct : (vars.map Prod.fst).Nodup

namespace Table

/-- Gives `name` the value, in its place if it is there and at the end if it is not. -/
def update (name value : Bytes) : List (Bytes × Bytes) → List (Bytes × Bytes)
  | [] => [(name, value)]
  | (n, v) :: rest => if n = name then (n, value) :: rest else (n, v) :: update name value rest

theorem mem_names_update {name value n : Bytes} {vars : List (Bytes × Bytes)} :
    n ∈ (update name value vars).map Prod.fst ↔ n = name ∨ n ∈ vars.map Prod.fst := by
  induction vars with
  | nil => simp [update]
  | cons p rest ih =>
    simp only [update]
    split
    · rename_i h
      simp only [List.map_cons, List.mem_cons, h]
      exact ⟨.inr, fun h => h.elim .inl id⟩
    · simp only [List.map_cons, List.mem_cons, ih]
      exact or_left_comm

theorem nodup_update {name value : Bytes} {vars : List (Bytes × Bytes)}
    (h : (vars.map Prod.fst).Nodup) : ((update name value vars).map Prod.fst).Nodup := by
  induction vars with
  | nil => simp [update]
  | cons p rest ih =>
    simp only [List.map_cons, List.nodup_cons] at h
    simp only [update]
    split
    · simpa using h
    · rename_i hp
      simp only [List.map_cons, List.nodup_cons]
      exact ⟨fun hm => (mem_names_update.1 hm).elim hp h.1, ih h.2⟩

theorem lookup_cons {n k v : Bytes} {rest : List (Bytes × Bytes)} :
    ((k, v) :: rest).lookup n = if n = k then some v else rest.lookup n := by
  rw [List.lookup_cons]
  by_cases h : n = k
  · simp [h]
  · simp [h, beq_eq_false_iff_ne.2 h]

theorem lookup_update {name value n : Bytes} {vars : List (Bytes × Bytes)} :
    (update name value vars).lookup n = if n = name then some value else vars.lookup n := by
  induction vars with
  | nil => exact lookup_cons
  | cons p rest ih =>
    obtain ⟨k, v⟩ := p
    by_cases hk : k = name
    · by_cases hn : n = name <;> simp [update, lookup_cons, hk, hn]
    · by_cases hn : n = k
      · have : n ≠ name := hn ▸ hk
        simp [update, hk, hn]
      · simp [update, lookup_cons, hk, hn, ih]

def empty : Table := ⟨[], List.nodup_nil⟩

/-- Gives `name` the value, whatever they are. -/
def put (table : Table) (name value : Bytes) : Table :=
  ⟨update name value table.vars, nodup_update table.distinct⟩

/-- The table with these pairs; of two with one name the later counts. -/
def ofList (vars : List (Bytes × Bytes)) : Table :=
  vars.foldl (fun table (name, value) => table.put name value) empty

def get (table : Table) (name : Bytes) : Option Bytes := table.vars.lookup name

def set (table : Table) (name value : Bytes) : Except Errno Table :=
  if Store.accepts name value then .ok (table.put name value) else .error .invalid

def snapshot (table : Table) : List Bytes :=
  table.vars.filterMap fun (name, value) => Store.entry? name value

instance : Store Table := ⟨get, set, snapshot⟩

@[simp] theorem get_put (table : Table) (name value n : Bytes) :
    (table.put name value).get n = if n = name then some value else table.get n :=
  lookup_update

end Table

end LineShell
