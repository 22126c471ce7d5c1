/-
This file proves that the bounded cache loses no entry and counts honestly. What has come in under keys that held
nothing is what is still there and what has gone: pushed out by other entries, deleted, found expired by a read or
by a cleanup, or dropped with all the rest. To store under a key that holds an entry, live or not, brings nothing
in and takes nothing out. The hits and misses are the reads that have returned a value and those that have not.

Each operation is measured by what it is asked and what it answers, and the balance of one operation gives that of
a whole run.
-/

import Community.Proofs.Cache.Bounds
import Community.Proofs.Cache.Entries

namespace Community

namespace Table

variable {κ ν : Type} [DecidableEq κ] {table : Table κ ν} {key : κ}

/-- A key that is bound anew is counted once. -/
theorem size_insert (table : Table κ ν) (key : κ) (value : ν) :
    (table.insert key value).size = table.size + (!table.contains key).toNat := by
  unfold contains
  cases found : table.get? key with
  | none => exact size_insert_of_fresh found value
  | some old =>
    have same := (bindings_insert_perm table key value).length_eq
    rw [List.length_append, List.length_singleton] at same
    exact same.trans (size_erase found)

/-- A table has as many bindings as a smaller one and those whose keys are missing there. -/
theorem size_eq_add_missing {smaller : Table κ ν} (includes : table.Includes smaller) :
    table.size = smaller.size + table.keys.countP fun key => !smaller.contains key := by
  have present : (table.keys.filter smaller.contains).Perm smaller.keys := by
    refine (List.perm_ext_iff_of_nodup (table.distinct.filter _) smaller.distinct).2 fun key => ?_
    rw [List.mem_filter]
    refine ⟨fun ⟨_, held⟩ => mem_keys.2 (Option.isSome_iff_exists.1 held), fun member => ?_⟩
    obtain ⟨value, found⟩ := mem_keys.1 member
    exact ⟨mem_keys.2 ⟨value, includes key value found⟩, Option.isSome_iff_exists.2 ⟨value, found⟩⟩
  have held : table.keys.countP smaller.contains = smaller.size := by
    rw [List.countP_eq_length_filter, present.length_eq]
    exact List.length_map _
  have all : table.size = table.keys.length := (List.length_map _).symm
  rw [all, List.length_eq_countP_add_countP smaller.contains, held]
  simp

theorem keys_insert_perm (table : Table κ ν) (key : κ) (value : ν) :
    (table.insert key value).keys.Perm (table.keys.filter (· ≠ key) ++ [key]) := by
  have same := (bindings_insert_perm table key value).map Prod.fst
  rw [List.map_append, bindings_erase] at same
  unfold keys
  rw [List.filter_map]
  exact same

end Table

namespace Cache.Bounded

variable {ν : Type}

/-! ### Measures along a run -/

section Measures

variable [Weighed ν]

theorem sum_tally_add (cache : Bounded ν) (one other : Bounded ν → Nat → Operation ν → Nat)
    (history : List (Nat × Operation ν)) :
    (cache.tally (one + other) history).sum =
      (cache.tally one history).sum + (cache.tally other history).sum := by
  induction history generalizing cache with
  | nil => rfl
  | cons step rest inductionHypothesis =>
    simp only [tally, List.sum_cons, inductionHypothesis, Pi.add_apply]
    omega

/-- What is balanced by each operation is balanced by every run. -/
theorem balance_run {held : Bounded ν → Nat} {gain loss : Bounded ν → Nat → Operation ν → Nat}
    (balance : ∀ (cache : Bounded ν) (now : Nat) (operation : Operation ν),
      held cache + gain cache now operation = held (cache.perform now operation).1 + loss cache now operation)
    (cache : Bounded ν) (history : List (Nat × Operation ν)) :
    held cache + (cache.tally gain history).sum = held (cache.run history) + (cache.tally loss history).sum := by
  induction history generalizing cache with
  | nil => rfl
  | cons step rest inductionHypothesis =>
    obtain ⟨now, operation⟩ := step
    have here := balance cache now operation
    have later := inductionHypothesis (cache.perform now operation).1
    simp only [tally, run, List.sum_cons]
    omega

/-- What grows by a measure with each operation has grown by its sum with every run. -/
theorem growth_run {held : Bounded ν → Nat} {gain : Bounded ν → Nat → Operation ν → Nat}
    (growth : ∀ (cache : Bounded ν) (now : Nat) (operation : Operation ν),
      held (cache.perform now operation).1 = held cache + gain cache now operation)
    (cache : Bounded ν) (history : List (Nat × Operation ν)) :
    held (cache.run history) = held cache + (cache.tally gain history).sum := by
  induction history generalizing cache with
  | nil => rfl
  | cons step rest inductionHypothesis =>
    rw [run, inductionHypothesis, growth, tally, List.sum_cons, Nat.add_assoc]

end Measures

/-! ### What comes, what goes and what is read -/

/-- The values that are stored under keys that hold nothing, not even an expired entry. -/
def arrivals (cache : Bounded ν) (_ : Nat) : Operation ν → Nat
  | .set key _ | .setWithTtl key _ _ => (!cache.entries.contains key).toNat
  | _ => 0

/-- The entries that are there under other keys when a value is stored, and are gone afterwards. -/
def pushedOut [Weighed ν] (cache : Bounded ν) (now : Nat) (operation : Operation ν) : Nat :=
  match operation with
  | .set key _ | .setWithTtl key _ _ =>
    cache.entries.keys.countP fun other =>
      !(cache.perform now operation).1.entries.contains other && other ≠ key
  | _ => 0

/-- The entries that are deleted. -/
def deletions (cache : Bounded ν) (_ : Nat) : Operation ν → Nat
  | .delete key => (cache.delete key).2.toNat
  | _ => 0

/-- The entries that a read finds expired. -/
def lapses (cache : Bounded ν) (now : Nat) : Operation ν → Nat
  | .get key => ((cache.entries.get? key).any (·.isExpired now)).toNat
  | _ => 0

/-- The entries that a cleanup says it has removed. -/
def reaped (cache : Bounded ν) (now : Nat) : Operation ν → Nat
  | .cleanup => (cache.cleanup now).2
  | _ => 0

/-- The entries that are there when all are dropped. -/
def dropped (cache : Bounded ν) (_ : Nat) : Operation ν → Nat
  | .clear => cache.size
  | _ => 0

/-- The entries that go for another reason than that they are pushed out. -/
def departures : Bounded ν → Nat → Operation ν → Nat :=
  deletions + lapses + reaped + dropped

/-- The reads that return a value. -/
def finds (cache : Bounded ν) (now : Nat) : Operation ν → Nat
  | .get key => (cache.get now key).2.isSome.toNat
  | _ => 0

/-- The reads that return nothing. -/
def failures (cache : Bounded ν) (now : Nat) : Operation ν → Nat
  | .get key => (cache.get now key).2.isNone.toNat
  | _ => 0

/-! ### Entries -/

section Entries

variable {cache : Bounded ν} {now : Nat} {key : String}

/-- The entries that are there and those that have been pushed out. -/
def accounted (cache : Bounded ν) : Nat :=
  cache.size + cache.evictions

theorem accounted_remove (cache : Bounded ν) (key : String) :
    cache.accounted = (cache.remove key).accounted + (cache.entries.contains key).toNat := by
  unfold remove Table.contains
  cases found : cache.entries.get? key with
  | none => rfl
  | some entry =>
    show cache.entries.size + cache.evictions = (cache.entries.erase key).size + cache.evictions + 1
    rw [← Table.size_erase found]
    omega

/-- What is pushed out is counted. -/
theorem accounted_evict (cache : Bounded ν) : cache.evict.accounted = cache.accounted := by
  unfold evict
  split
  · next order victim _ =>
    split
    · next entry found =>
      show (cache.entries.erase victim).size + (cache.evictions + 1) = cache.entries.size + cache.evictions
      rw [← Table.size_erase found]
      omega
    · rfl
  · rfl

theorem accounted_shrink (cache : Bounded ν) (kept : String) (count : Nat) :
    (cache.shrink kept count).accounted = cache.accounted :=
  shrink_induction (motive := fun later => later.accounted = cache.accounted) kept count rfl
    fun later _ _ _ same => later.accounted_evict.trans same

/-- A value that is stored is one entry more, unless its key held one. -/
theorem accounted_setWithTtl [Weighed ν] (cache : Bounded ν) (now : Nat) (key : String) (value : ν)
    (ttl : Duration) :
    (cache.setWithTtl now key value ttl).accounted = cache.accounted + (!cache.entries.contains key).toNat := by
  unfold setWithTtl
  dsimp only
  rw [accounted_shrink]
  show (cache.entries.insert key _).size + cache.evictions = cache.entries.size + cache.evictions + _
  rw [Table.size_insert]
  omega

/-- What is counted as pushed out when a value is stored are the entries of other keys that are gone then. -/
theorem evictions_setWithTtl [Weighed ν] (cache : Bounded ν) (now : Nat) (key : String) (value : ν)
    (ttl : Duration) :
    (cache.setWithTtl now key value ttl).evictions = cache.evictions +
      cache.entries.keys.countP fun other =>
        !(cache.setWithTtl now key value ttl).entries.contains other && other ≠ key := by
  let stored := cache.setWithTtl now key value ttl
  let filled := cache.entries.insert key (.create value (weight value) now ttl)
  have held : stored.entries.contains key := by
    unfold Table.contains
    rw [get?_setWithTtl_self]
    rfl
  have missing : filled.keys.countP (fun other => !stored.entries.contains other) =
      cache.entries.keys.countP fun other => !stored.entries.contains other && other ≠ key := by
    rw [(Table.keys_insert_perm _ _ _).countP_eq, List.countP_append, List.countP_filter,
      List.countP_singleton, held]
    rfl
  have sizes : filled.size = stored.entries.size + _ := Table.size_eq_add_missing (includes_shrink _ _ _)
  have kept : stored.entries.size + stored.evictions = filled.size + cache.evictions := accounted_shrink _ _ _
  rw [missing] at sizes
  show stored.evictions = cache.evictions +
    cache.entries.keys.countP fun other => !stored.entries.contains other && other ≠ key
  omega

theorem accounted_get (cache : Bounded ν) (now : Nat) (key : String) :
    cache.accounted =
      (cache.get now key).1.accounted + ((cache.entries.get? key).any (·.isExpired now)).toNat := by
  have removed := cache.accounted_remove key
  unfold get
  unfold Table.contains at removed
  cases found : cache.entries.get? key with
  | none => rfl
  | some entry =>
    rw [found] at removed
    dsimp only [Option.any_some]
    cases entry.isExpired now with
    | true => exact removed
    | false => rfl

/-- Of keys that hold entries, each is one entry less when it is removed. -/
theorem accounted_foldl_remove {keys : List String} (distinct : keys.Nodup)
    (held : ∀ key ∈ keys, cache.entries.contains key) :
    cache.accounted = (keys.foldl remove cache).accounted + keys.length := by
  induction keys generalizing cache with
  | nil => rfl
  | cons key rest inductionHypothesis =>
    obtain ⟨absent, distinctRest⟩ := List.nodup_cons.1 distinct
    have here := cache.accounted_remove key
    rw [held key List.mem_cons_self] at here
    have heldRest : ∀ other ∈ rest, (cache.remove key).entries.contains other := by
      intro other member
      have differs : key ≠ other := fun same => absent (same ▸ member)
      unfold Table.contains
      rw [get?_remove, if_neg differs]
      exact held other (List.mem_cons_of_mem _ member)
    rw [List.foldl_cons, List.length_cons, here, inductionHypothesis distinctRest heldRest]
    exact Nat.add_assoc _ _ _

theorem accounted_cleanup (cache : Bounded ν) (now : Nat) :
    cache.accounted = (cache.cleanup now).1.accounted + (cache.cleanup now).2 := by
  refine accounted_foldl_remove (cache.entries.filter _).distinct fun key member => ?_
  obtain ⟨entry, found⟩ := Table.mem_keys.1 member
  exact Option.isSome_iff_exists.2 ⟨entry, Table.includes_filter _ _ key entry found⟩

/-- What comes with an operation is there afterwards or has gone in one of the ways there are. -/
theorem accounted_perform [Weighed ν] (cache : Bounded ν) (now : Nat) (operation : Operation ν) :
    cache.accounted + arrivals cache now operation =
      (cache.perform now operation).1.accounted + departures cache now operation := by
  simp only [departures, Pi.add_apply]
  cases operation with
  | set key value => exact (cache.accounted_setWithTtl now key value _).symm
  | setWithTtl key value ttl => exact (cache.accounted_setWithTtl now key value ttl).symm
  | get key => simpa [perform, arrivals, deletions, lapses, reaped, dropped] using cache.accounted_get now key
  | peek | contains => rfl
  | delete key =>
    simpa [perform, delete, arrivals, deletions, lapses, reaped, dropped] using cache.accounted_remove key
  | clear =>
    show cache.size + cache.evictions = 0 + cache.evictions + (0 + 0 + 0 + cache.size)
    omega
  | cleanup => simpa [perform, arrivals, deletions, lapses, reaped, dropped] using cache.accounted_cleanup now

theorem evictions_remove (cache : Bounded ν) (key : String) : (cache.remove key).evictions = cache.evictions := by
  unfold remove
  split <;> rfl

theorem evictions_get (cache : Bounded ν) (now : Nat) (key : String) :
    (cache.get now key).1.evictions = cache.evictions := by
  unfold get
  split
  · rfl
  · split
    · exact cache.evictions_remove key
    · rfl

theorem evictions_cleanup (cache : Bounded ν) (now : Nat) :
    (cache.cleanup now).1.evictions = cache.evictions :=
  List.foldlRecOn (motive := fun later : Bounded ν => later.evictions = cache.evictions) _ remove rfl
    fun later same key _ => (later.evictions_remove key).trans same

/-- Nothing is counted as pushed out but by what is stored. -/
theorem evictions_perform [Weighed ν] (cache : Bounded ν) (now : Nat) (operation : Operation ν) :
    (cache.perform now operation).1.evictions = cache.evictions + pushedOut cache now operation := by
  cases operation with
  | set key value => exact cache.evictions_setWithTtl now key value _
  | setWithTtl key value ttl => exact cache.evictions_setWithTtl now key value ttl
  | get key => exact cache.evictions_get now key
  | peek | contains | clear => rfl
  | delete key => exact cache.evictions_remove key
  | cleanup => exact cache.evictions_cleanup now

end Entries

/-! ### What stays as entries go -/

/-- Have no reads been counted and no stamps been given out? -/
structure Sheds (cache later : Bounded ν) : Prop where
  hits : later.hits = cache.hits
  misses : later.misses = cache.misses
  nextStamp : later.recency.nextStamp = cache.recency.nextStamp

theorem Sheds.trans {cache middle later : Bounded ν} (sheds : cache.Sheds middle)
    (further : middle.Sheds later) : cache.Sheds later :=
  ⟨further.hits.trans sheds.hits, further.misses.trans sheds.misses, further.nextStamp.trans sheds.nextStamp⟩

theorem sheds_remove (cache : Bounded ν) (key : String) : cache.Sheds (cache.remove key) := by
  unfold remove
  split
  · refine ⟨rfl, rfl, ?_⟩
    dsimp only [Recency.remove]
    split <;> rfl
  · exact ⟨rfl, rfl, rfl⟩

theorem sheds_evict (cache : Bounded ν) : cache.Sheds cache.evict := by
  have evicted : cache.recency.evictOldest.1.nextStamp = cache.recency.nextStamp := by
    unfold Recency.evictOldest
    split <;> rfl
  unfold evict
  split
  · next left victim pushed =>
    rw [pushed] at evicted
    split <;> exact ⟨rfl, rfl, evicted⟩
  · exact ⟨rfl, rfl, rfl⟩

theorem sheds_shrink (cache : Bounded ν) (kept : String) (count : Nat) :
    cache.Sheds (cache.shrink kept count) :=
  shrink_induction (motive := cache.Sheds) kept count ⟨rfl, rfl, rfl⟩
    fun later _ _ _ sheds => sheds.trans later.sheds_evict

theorem sheds_foldl_remove (cache : Bounded ν) (keys : List String) :
    cache.Sheds (keys.foldl remove cache) :=
  List.foldlRecOn (motive := cache.Sheds) keys remove ⟨rfl, rfl, rfl⟩
    fun later sheds key _ => sheds.trans (later.sheds_remove key)

/-! ### Reads -/

/-- A read counts as a hit when it returns a value, and as a miss when it returns nothing. -/
theorem counted_get (cache : Bounded ν) (now : Nat) (key : String) :
    (cache.get now key).1.hits = cache.hits + (cache.get now key).2.isSome.toNat ∧
      (cache.get now key).1.misses = cache.misses + (cache.get now key).2.isNone.toNat := by
  have removed := cache.sheds_remove key
  unfold get
  split
  · exact ⟨rfl, rfl⟩
  · split
    · exact ⟨removed.hits, rfl⟩
    · exact ⟨rfl, rfl⟩

theorem counted_setWithTtl [Weighed ν] (cache : Bounded ν) (now : Nat) (key : String) (value : ν)
    (ttl : Duration) :
    (cache.setWithTtl now key value ttl).hits = cache.hits ∧
      (cache.setWithTtl now key value ttl).misses = cache.misses :=
  ⟨(sheds_shrink _ _ _).hits, (sheds_shrink _ _ _).misses⟩

/-- Nothing but reads is counted. -/
theorem counted_perform [Weighed ν] (cache : Bounded ν) (now : Nat) (operation : Operation ν) :
    (cache.perform now operation).1.hits = cache.hits + finds cache now operation ∧
      (cache.perform now operation).1.misses = cache.misses + failures cache now operation := by
  cases operation with
  | set key value => exact cache.counted_setWithTtl now key value _
  | setWithTtl key value ttl => exact cache.counted_setWithTtl now key value ttl
  | get key => exact cache.counted_get now key
  | peek | contains | clear => exact ⟨rfl, rfl⟩
  | delete key => exact ⟨(cache.sheds_remove key).hits, (cache.sheds_remove key).misses⟩
  | cleanup => exact ⟨(cache.sheds_foldl_remove _).hits, (cache.sheds_foldl_remove _).misses⟩

theorem hits_perform [Weighed ν] (cache : Bounded ν) (now : Nat) (operation : Operation ν) :
    (cache.perform now operation).1.hits = cache.hits + finds cache now operation :=
  (cache.counted_perform now operation).1

theorem misses_perform [Weighed ν] (cache : Bounded ν) (now : Nat) (operation : Operation ν) :
    (cache.perform now operation).1.misses = cache.misses + failures cache now operation :=
  (cache.counted_perform now operation).2

/-! ### Every run -/

/-- Whatever has been asked of a cache, each thing at its own reading of the clock, the values that were stored
under keys that held nothing are as many as the entries that are there, those that were pushed out, those that
were deleted, those that reads found expired, those that cleanups removed and those that were dropped with all the
rest. What is counted as pushed out are the entries that went when a value was stored under another key, and none
that went otherwise. The hits are the reads that returned a value, and the misses those that returned nothing. -/
theorem entries_conserved [Weighed ν] (config : GroupConfig) (history : List (Nat × Operation ν)) :
    let start : Bounded ν := create config
    let report := (start.run history).stats
    (start.tally arrivals history).sum =
      report.currentSize + report.evictions + (start.tally deletions history).sum +
        (start.tally lapses history).sum + (start.tally reaped history).sum + (start.tally dropped history).sum ∧
    report.evictions = (start.tally pushedOut history).sum ∧
    report.hits = (start.tally finds history).sum ∧ report.misses = (start.tally failures history).sum := by
  intro start report
  have balance := balance_run accounted_perform start history
  have evictions : report.evictions = start.evictions + _ := growth_run evictions_perform start history
  have hits : report.hits = start.hits + _ := growth_run hits_perform start history
  have misses : report.misses = start.misses + _ := growth_run misses_perform start history
  have none : start.accounted = 0 := rfl
  have all : (start.run history).accounted = report.currentSize + report.evictions := rfl
  rw [none, all, Nat.zero_add] at balance
  simp only [departures, sum_tally_add] at balance
  refine ⟨by omega, evictions.trans (Nat.zero_add _), hits.trans (Nat.zero_add _), misses.trans (Nat.zero_add _)⟩

/-- Three values come in and the first is read in time, so that the second is pushed out; what expires is neither
pushed out nor, once it is stored anew, new. -/
example :
    let start : Bounded String := create ⟨2, 10, .ofSeconds 60⟩
    let history : List (Nat × Operation String) :=
      [(0, .set "a" "x"), (0, .setWithTtl "b" "y" (.ofMillis 1)), (0, .get "a"), (1, .set "c" "z"),
        (2, .setWithTtl "c" "z" (.ofMillis 1)), (3, .get "c"), (3, .delete "b")]
    (start.tally arrivals history).sum = 3 ∧ (start.run history).stats.evictions = 1 ∧
      (start.tally lapses history).sum = 1 ∧ (start.run history).stats.currentSize = 1 := by decide

end Cache.Bounded

end Community
