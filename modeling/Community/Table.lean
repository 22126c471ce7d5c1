/-
This file provides the finite maps that hold every keyed state of the service: cache slots, upload
sessions, blobs, presence. A table is a list of bindings in which each key occurs once; a key keeps
the place at which it was first bound, so walking a table visits its keys in the order in which they
arrived. The facts below say what each operation does to a lookup.
-/

namespace Community

/-- A finite map as a list of bindings with distinct keys, in order of arrival. -/
structure Table (κ : Type) (ν : Type) where
  bindings : List (κ × ν)
  distinct : (bindings.map Prod.fst).Nodup

namespace Table

variable {κ ν : Type}

@[ext] theorem ext {one two : Table κ ν} (same : one.bindings = two.bindings) : one = two := by
  cases one
  cases two
  cases same
  rfl

/-- The table without bindings. -/
def empty : Table κ ν := ⟨[], List.nodup_nil⟩

instance : EmptyCollection (Table κ ν) := ⟨empty⟩

instance : Inhabited (Table κ ν) := ⟨empty⟩

/-- The bound keys, in order of arrival. -/
def keys (table : Table κ ν) : List κ :=
  table.bindings.map Prod.fst

/-- The bound values, in the order of their keys. -/
def values (table : Table κ ν) : List ν :=
  table.bindings.map Prod.snd

/-- The number of bindings. -/
def size (table : Table κ ν) : Nat :=
  table.bindings.length

/-- Is the table without bindings? -/
def isEmpty (table : Table κ ν) : Bool :=
  table.bindings.isEmpty

/-- The bindings that satisfy a test; the others are forgotten. -/
def filter (keep : κ → ν → Bool) (table : Table κ ν) : Table κ ν where
  bindings := table.bindings.filter fun binding => keep binding.1 binding.2
  distinct := table.distinct.sublist (List.filter_sublist.map Prod.fst)

/-- The same keys with every value replaced by a function of its binding. -/
def mapValues {μ : Type} (change : κ → ν → μ) (table : Table κ ν) : Table κ μ where
  bindings := table.bindings.map fun binding => (binding.1, change binding.1 binding.2)
  distinct := by
    have same : (Prod.fst ∘ fun binding : κ × ν => (binding.1, change binding.1 binding.2)) =
        Prod.fst := rfl
    simpa [List.map_map, same] using table.distinct

variable [DecidableEq κ]

/-- The value of the first binding of a key in a list of bindings. -/
def lookup (key : κ) : List (κ × ν) → Option ν
  | [] => none
  | binding :: rest => if binding.1 = key then some binding.2 else lookup key rest

/-- A list of bindings in which a key has a new value: in place if it was bound, else at the end. -/
def bind (key : κ) (value : ν) : List (κ × ν) → List (κ × ν)
  | [] => [(key, value)]
  | binding :: rest =>
    if binding.1 = key then (key, value) :: rest else binding :: bind key value rest

theorem mem_keys_bind {key other : κ} {value : ν} {bindings : List (κ × ν)}
    (bound : other ∈ (bind key value bindings).map Prod.fst) :
    other = key ∨ other ∈ bindings.map Prod.fst := by
  induction bindings with
  | nil => simpa [bind] using bound
  | cons binding rest inductionHypothesis =>
    by_cases same : binding.1 = key
    · simp only [bind, if_pos same, List.map_cons, List.mem_cons] at bound ⊢
      exact bound.imp_right Or.inr
    · simp only [bind, if_neg same, List.map_cons, List.mem_cons] at bound ⊢
      rcases bound with here | later
      · exact Or.inr (Or.inl here)
      · rcases inductionHypothesis later with isKey | member
        · exact Or.inl isKey
        · exact Or.inr (Or.inr member)

theorem nodup_bind (key : κ) (value : ν) {bindings : List (κ × ν)}
    (distinct : (bindings.map Prod.fst).Nodup) :
    ((bind key value bindings).map Prod.fst).Nodup := by
  induction bindings with
  | nil => simp [bind]
  | cons binding rest inductionHypothesis =>
    rw [List.map_cons, List.nodup_cons] at distinct
    by_cases same : binding.1 = key
    · subst same
      simpa [bind] using distinct
    · rw [bind, if_neg same, List.map_cons, List.nodup_cons]
      refine ⟨fun bound => ?_, inductionHypothesis distinct.2⟩
      rcases mem_keys_bind bound with isKey | member
      · exact same isKey
      · exact distinct.1 member

/-- The value bound to a key. -/
def get? (table : Table κ ν) (key : κ) : Option ν :=
  lookup key table.bindings

/-- Is the key bound? -/
def contains (table : Table κ ν) (key : κ) : Bool :=
  (table.get? key).isSome

/-- Binds a key, replacing its value if it had one. -/
def insert (table : Table κ ν) (key : κ) (value : ν) : Table κ ν where
  bindings := bind key value table.bindings
  distinct := nodup_bind key value table.distinct

/-- Forgets a key. -/
def erase (table : Table κ ν) (key : κ) : Table κ ν :=
  table.filter fun other _ => other ≠ key

/-- Applies a function to the value of a key, if it has one. -/
def modify (table : Table κ ν) (key : κ) (change : ν → ν) : Table κ ν :=
  match table.get? key with
  | some value => table.insert key (change value)
  | none => table

/-- Binds every pair of a list in turn; of two pairs with one key the later counts. -/
def insertAll (table : Table κ ν) (pairs : List (κ × ν)) : Table κ ν :=
  pairs.foldl (fun filled pair => filled.insert pair.1 pair.2) table

/-! ### Lookups after an operation -/

theorem lookup_bind (key other : κ) (value : ν) (bindings : List (κ × ν)) :
    lookup other (bind key value bindings) =
      if key = other then some value else lookup other bindings := by
  induction bindings with
  | nil => simp [bind, lookup]
  | cons binding rest inductionHypothesis =>
    by_cases same : binding.1 = key
    · by_cases wanted : key = other
      · simp [bind, lookup, same, wanted]
      · simp [bind, lookup, same, wanted]
    · by_cases wanted : key = other
      · subst wanted
        simp [bind, lookup, same, inductionHypothesis]
      · simp only [bind, if_neg same, lookup, inductionHypothesis, if_neg wanted]

@[simp] theorem get?_empty (key : κ) : (empty : Table κ ν).get? key = none := rfl

theorem get?_insert (table : Table κ ν) (key other : κ) (value : ν) :
    (table.insert key value).get? other = if key = other then some value else table.get? other :=
  lookup_bind key other value table.bindings

@[simp] theorem get?_insert_self (table : Table κ ν) (key : κ) (value : ν) :
    (table.insert key value).get? key = some value := by
  simp [get?_insert]

theorem lookup_eq_none {key : κ} {bindings : List (κ × ν)}
    (absent : key ∉ bindings.map Prod.fst) : lookup key bindings = none := by
  induction bindings with
  | nil => rfl
  | cons binding rest inductionHypothesis =>
    simp only [List.map_cons, List.mem_cons, not_or] at absent
    rw [lookup, if_neg (Ne.symm absent.1), inductionHypothesis absent.2]

theorem lookup_eq_some_iff {key : κ} {value : ν} {bindings : List (κ × ν)}
    (distinct : (bindings.map Prod.fst).Nodup) :
    lookup key bindings = some value ↔ (key, value) ∈ bindings := by
  induction bindings with
  | nil => simp [lookup]
  | cons binding rest inductionHypothesis =>
    rw [List.map_cons, List.nodup_cons] at distinct
    by_cases same : binding.1 = key
    · subst same
      have notLater : (binding.1, value) ∉ rest := fun later =>
        distinct.1 (List.mem_map.2 ⟨_, later, rfl⟩)
      simp only [lookup, if_pos, List.mem_cons, notLater, or_false, Option.some.injEq]
      exact ⟨fun equal => Prod.ext rfl equal.symm, fun equal => (congrArg Prod.snd equal).symm⟩
    · have notHere : (key, value) ≠ binding := fun equal => same (congrArg Prod.fst equal).symm
      simp only [lookup, if_neg same, List.mem_cons, notHere, false_or]
      exact inductionHypothesis distinct.2

theorem get?_eq_some_iff {table : Table κ ν} {key : κ} {value : ν} :
    table.get? key = some value ↔ (key, value) ∈ table.bindings :=
  lookup_eq_some_iff table.distinct

theorem mem_keys {table : Table κ ν} {key : κ} :
    key ∈ table.keys ↔ ∃ value, table.get? key = some value := by
  simp [keys, get?_eq_some_iff]

theorem lookup_filter (keep : κ → ν → Bool) (key : κ) {bindings : List (κ × ν)}
    (distinct : (bindings.map Prod.fst).Nodup) :
    lookup key (bindings.filter fun binding => keep binding.1 binding.2) =
      (lookup key bindings).filter (keep key) := by
  induction bindings with
  | nil => rfl
  | cons binding rest inductionHypothesis =>
    rw [List.map_cons, List.nodup_cons] at distinct
    have onRest := inductionHypothesis distinct.2
    by_cases same : binding.1 = key
    · subst same
      have gone : lookup binding.1 rest = none := lookup_eq_none distinct.1
      rw [gone] at onRest
      cases kept : keep binding.1 binding.2 <;> simp [lookup, kept, onRest, Option.filter]
    · cases kept : keep binding.1 binding.2 <;> simp [lookup, kept, same, onRest]

theorem get?_filter (table : Table κ ν) (keep : κ → ν → Bool) (key : κ) :
    (table.filter keep).get? key = (table.get? key).filter (keep key) :=
  lookup_filter keep key table.distinct

theorem lookup_map {μ : Type} (change : κ → ν → μ) (key : κ) (bindings : List (κ × ν)) :
    lookup key (bindings.map fun binding => (binding.1, change binding.1 binding.2)) =
      (lookup key bindings).map (change key) := by
  induction bindings with
  | nil => rfl
  | cons binding rest inductionHypothesis =>
    by_cases same : binding.1 = key
    · subst same
      simp [lookup]
    · simp only [List.map_cons, lookup, if_neg same, inductionHypothesis]

theorem get?_mapValues {μ : Type} (table : Table κ ν) (change : κ → ν → μ) (key : κ) :
    (table.mapValues change).get? key = (table.get? key).map (change key) :=
  lookup_map change key table.bindings

theorem get?_erase (table : Table κ ν) (key other : κ) :
    (table.erase key).get? other = if key = other then none else table.get? other := by
  rw [erase, get?_filter]
  by_cases same : key = other
  · subst same
    cases table.get? key <;> simp [Option.filter]
  · have differs : other ≠ key := fun equal => same equal.symm
    cases table.get? other <;> simp [Option.filter, same, differs]

end Table

end Community
