/-
This file proves that the cache without bounds is a map whose entries expire, and that nobody sees when they go.
What a key leads to is a matter of the history alone: it is what was stored there last, unless the key has been
deleted or the cache cleared since, for as long as its expiry lies ahead. Reads and cleanups remove what has
expired, at moments that depend on everything that was asked. What carries the proof is that an entry which is
gone though nobody deleted it had expired when it went, and as the clock does not go back it would not be served
again. So the entries that are kept may be fewer than those of the history, but the live ones are the same.
-/

import Mathlib.Data.Finset.Card
import Mathlib.Data.List.Induction
import Community.Proofs.Cache.Entries
import Community.Proofs.Time.Order

namespace Community.Cache

theorem Entry.isExpired_eq_false {ν : Type} {entry : Entry ν} {now : Nat} :
    entry.isExpired now = false ↔ ∀ moment ∈ entry.expiresAt, now < moment := by
  unfold isExpired
  cases entry.expiresAt <;> simp

namespace Expiring

/-! ### Histories -/

/-- What can be asked of the cache. -/
inductive Operation (ν : Type) where
  | set (key : String) (value : ν)
  | setWithTtl (key : String) (value : ν) (ttl : Duration)
  | get (key : String)
  | delete (key : String)
  | clear
  | cleanup

/-- Operations with the readings of the clock at which they are carried out, the earliest first. -/
abbrev History (ν : Type) := List (Nat × Operation ν)

variable {ν : Type}

namespace Operation

/-- What an operation stores: a key, a value and a lifetime, which is the cache's own if none is given. -/
def stores? (ttl : Duration) : Operation ν → Option (String × ν × Duration)
  | set key value => some (key, value, ttl)
  | setWithTtl key value lifetime => some (key, value, lifetime)
  | _ => none

/-- Does the operation decide what the key holds: is something stored there, or the key deleted, or the cache
cleared? -/
def settles (key : String) : Operation ν → Bool
  | set other _ => other = key
  | setWithTtl other _ _ => other = key
  | delete other => other = key
  | clear => true
  | get _ => false
  | cleanup => false

def isCleanup : Operation ν → Bool
  | cleanup => true
  | _ => false

end Operation

/-- A value was the last to be stored under a key, until a certain expiry, and since then the key has not been
deleted nor the cache cleared. -/
def Holds (ttl : Duration) (history : History ν) (key : String) (value : ν) (expires : Option Nat) : Prop :=
  ∃ earlier time operation lifetime later, history = earlier ++ (time, operation) :: later ∧
    operation.stores? ttl = some (key, value, lifetime) ∧ expires = expiry time lifetime ∧
    ∀ step ∈ later, step.2.settles key = false

/-- A value is held under a key, and its expiry lies ahead if it has one. -/
def Serves (ttl : Duration) (history : History ν) (now : Nat) (key : String) (value : ν) : Prop :=
  ∃ expires, Holds ttl history key value expires ∧ ∀ moment ∈ expires, now < moment

/-- The history without its cleanups. -/
def unreaped (history : History ν) : History ν :=
  history.filter fun step => !step.2.isCleanup

/-- Carries out an operation at a reading of the clock, and says what is read if it is a read. -/
def perform (cache : Expiring ν) (now : Nat) : Operation ν → Expiring ν × Option (Option ν)
  | .set key value => (cache.set now key value, none)
  | .setWithTtl key value ttl => (cache.setWithTtl now key value ttl, none)
  | .get key => ((cache.get now key).1, some (cache.get now key).2)
  | .delete key => ((cache.delete key).1, none)
  | .clear => (cache.clear, none)
  | .cleanup => ((cache.cleanup now).1, none)

/-- The cache after a history. -/
def run (cache : Expiring ν) : History ν → Expiring ν
  | [] => cache
  | (now, operation) :: rest => (cache.perform now operation).1.run rest

/-- What the reads of a history return, one after the other. -/
def reads (cache : Expiring ν) : History ν → List (Option ν)
  | [] => []
  | (now, operation) :: rest =>
    (cache.perform now operation).2.toList ++ (cache.perform now operation).1.reads rest

/-! ### One more operation -/

variable {cache : Expiring ν} {ttl : Duration} {history : History ν} {time clock now : Nat}
  {operation : Operation ν} {key : String} {value : ν} {expires : Option Nat} {entry : Entry ν}

theorem run_concat :
    cache.run (history ++ [(time, operation)]) = ((cache.run history).perform time operation).1 := by
  induction history generalizing cache with
  | nil => rfl
  | cons step rest inductionHypothesis => exact inductionHypothesis

theorem reads_concat :
    cache.reads (history ++ [(time, operation)]) =
      cache.reads history ++ ((cache.run history).perform time operation).2.toList := by
  induction history generalizing cache with
  | nil => exact List.append_nil _
  | cons step rest inductionHypothesis =>
    rw [List.cons_append, reads, reads, run, inductionHypothesis, List.append_assoc]

theorem Operation.settles_of_stores {lifetime : Duration}
    (stores : operation.stores? ttl = some (key, value, lifetime)) : operation.settles key = true := by
  cases operation with
  | set | setWithTtl =>
    cases stores
    exact decide_eq_true rfl
  | get | delete | clear | cleanup => cases stores

theorem not_holds_nil : ¬ Holds ttl [] key value expires := by
  rintro ⟨earlier, time, operation, lifetime, later, split, -⟩
  exact List.append_ne_nil_of_right_ne_nil _ (List.cons_ne_nil _ _) split.symm

/-- After one more operation a key holds what it stores there, or what it held before if it leaves the key
alone. -/
theorem holds_concat :
    Holds ttl (history ++ [(time, operation)]) key value expires ↔
      (∃ lifetime, operation.stores? ttl = some (key, value, lifetime) ∧ expires = expiry time lifetime) ∨
        operation.settles key = false ∧ Holds ttl history key value expires := by
  constructor
  · rintro ⟨earlier, moment, storing, lifetime, later, split, stores, rfl, left⟩
    rcases List.eq_nil_or_concat later with rfl | ⟨middle, last, rfl⟩
    · obtain ⟨-, same⟩ := List.append_inj' split rfl
      cases same
      exact Or.inl ⟨lifetime, stores, rfl⟩
    · rw [List.concat_eq_append] at split left
      rw [← List.cons_append, ← List.append_assoc] at split
      obtain ⟨rfl, same⟩ := List.append_inj' split rfl
      cases same
      rw [List.forall_mem_append] at left
      exact Or.inr ⟨left.2 _ List.mem_cons_self, earlier, moment, storing, lifetime, middle, rfl, stores,
        rfl, left.1⟩
  · rintro (⟨lifetime, stores, rfl⟩ |
      ⟨leaves, earlier, moment, storing, lifetime, later, rfl, stores, rfl, left⟩)
    · exact ⟨history, time, operation, lifetime, [], rfl, stores, rfl, nofun⟩
    · refine ⟨earlier, moment, storing, lifetime, later ++ [(time, operation)], by simp, stores, rfl, ?_⟩
      rw [List.forall_mem_append]
      exact ⟨left, fun step member => List.mem_singleton.1 member ▸ leaves⟩

/-- A key holds one value at most. -/
theorem Holds.unique {other : ν} {ends : Option Nat} (holds : Holds ttl history key value expires)
    (also : Holds ttl history key other ends) : value = other ∧ expires = ends := by
  induction history using List.reverseRecOn with
  | nil => exact absurd holds not_holds_nil
  | append_singleton history step inductionHypothesis =>
    obtain ⟨time, operation⟩ := step
    rcases holds_concat.1 holds with ⟨lifetime, stores, rfl⟩ | ⟨leaves, before⟩
    · rcases holds_concat.1 also with ⟨alsoLifetime, alsoStores, rfl⟩ | ⟨leaves, -⟩
      · cases stores.symm.trans alsoStores
        exact ⟨rfl, rfl⟩
      · cases leaves.symm.trans (Operation.settles_of_stores stores)
    · rcases holds_concat.1 also with ⟨lifetime, stores, -⟩ | ⟨-, alsoBefore⟩
      · cases leaves.symm.trans (Operation.settles_of_stores stores)
      · exact inductionHypothesis before alsoBefore

/-- Cleanups do not decide what a key holds. -/
theorem holds_unreaped :
    Holds ttl (unreaped history) key value expires ↔ Holds ttl history key value expires := by
  induction history using List.reverseRecOn with
  | nil => rfl
  | append_singleton history step inductionHypothesis =>
    obtain ⟨time, operation⟩ := step
    unfold unreaped at inductionHypothesis ⊢
    rw [holds_concat, List.filter_append]
    cases operation with
    | cleanup => simpa [Operation.isCleanup, Operation.stores?, Operation.settles] using inductionHypothesis
    | set | setWithTtl | get | delete | clear =>
      rw [List.filter_cons_of_pos (by rfl), List.filter_nil, holds_concat, inductionHypothesis]

theorem onward_unreaped (onward : Onward history now) : Onward (unreaped history) now :=
  onward.sublist List.filter_sublist

/-! ### The entries that are kept -/

/-- Every entry is one that its key holds, and every live value that a key holds has its entry. -/
structure Reflects (cache : Expiring ν) (ttl : Duration) (history : History ν) (clock : Nat) : Prop where
  lifetime : cache.defaultTtl = ttl
  held : ∀ key entry, cache.entries.get? key = some entry →
    Holds ttl history key entry.value entry.expiresAt
  kept : ∀ key value expires, Holds ttl history key value expires → (∀ moment ∈ expires, clock < moment) →
    ∃ entry, cache.entries.get? key = some entry

namespace Reflects

theorem create (ttl : Duration) (clock : Nat) :
    Reflects (Expiring.create ttl : Expiring ν) ttl [] clock where
  lifetime := rfl
  held _ _ found := nomatch found
  kept _ _ _ holds := absurd holds not_holds_nil

theorem later (reflects : Reflects cache ttl history clock) (passes : clock ≤ now) :
    Reflects cache ttl history now where
  lifetime := reflects.lifetime
  held := reflects.held
  kept key value expires holds ahead :=
    reflects.kept key value expires holds fun moment isEnd => Nat.lt_of_le_of_lt passes (ahead moment isEnd)

/-- An operation that removes nothing but expired entries and leaves the keys alone. -/
theorem reap (reflects : Reflects cache ttl history now) {after : Expiring ν}
    (leaves : ∀ key, operation.settles key = false) (same : after.defaultTtl = cache.defaultTtl)
    (fewer : cache.entries.Includes after.entries)
    (live : ∀ key entry, cache.entries.get? key = some entry → entry.isExpired now = false →
      after.entries.get? key = some entry) :
    Reflects after ttl (history ++ [(now, operation)]) now where
  lifetime := same.trans reflects.lifetime
  held key entry found := holds_concat.2 (Or.inr ⟨leaves key, reflects.held key entry (fewer _ _ found)⟩)
  kept key value expires holds ahead := by
    rcases holds_concat.1 holds with ⟨lifetime, stores, -⟩ | ⟨-, before⟩
    · cases (leaves key).symm.trans (Operation.settles_of_stores stores)
    · -- the entry that was there has the expiry of the value, so it is live and stays
      obtain ⟨entry, found⟩ := reflects.kept key value expires before ahead
      have ends := ((reflects.held key entry found).unique before).2
      exact ⟨entry, live key entry found (Entry.isExpired_eq_false.2 (ends ▸ ahead))⟩

theorem store (reflects : Reflects cache ttl history now) {lifetime : Duration}
    (stores : operation.stores? ttl = some (key, value, lifetime))
    (leaves : ∀ other, key ≠ other → operation.settles other = false) :
    Reflects (cache.setWithTtl now key value lifetime) ttl (history ++ [(now, operation)]) now where
  lifetime := reflects.lifetime
  held other entry found := by
    refine holds_concat.2 ?_
    unfold setWithTtl at found
    rw [Table.get?_insert] at found
    split at found
    · next same =>
      cases found
      exact Or.inl ⟨lifetime, same ▸ stores, rfl⟩
    · next differs => exact Or.inr ⟨leaves other differs, reflects.held other entry found⟩
  kept other stored expires holds ahead := by
    unfold setWithTtl
    rw [Table.get?_insert]
    split
    · exact ⟨_, rfl⟩
    · next differs =>
      rcases holds_concat.1 holds with ⟨alsoLifetime, alsoStores, -⟩ | ⟨-, before⟩
      · cases stores.symm.trans alsoStores
        exact absurd rfl differs
      · exact reflects.kept other stored expires before ahead

theorem delete (reflects : Reflects cache ttl history now) (key : String) :
    Reflects (cache.delete key).1 ttl (history ++ [(now, .delete key)]) now where
  lifetime := reflects.lifetime
  held other entry found := by
    unfold Expiring.delete at found
    rw [Table.get?_erase] at found
    split at found
    · cases found
    · next differs => exact holds_concat.2 (Or.inr ⟨decide_eq_false differs, reflects.held other entry found⟩)
  kept other value expires holds ahead := by
    rcases holds_concat.1 holds with ⟨_, stores, _⟩ | ⟨leaves, before⟩
    · cases stores
    · obtain ⟨entry, found⟩ := reflects.kept other value expires before ahead
      exact ⟨entry, (Table.get?_erase ..).trans ((if_neg (of_decide_eq_false leaves)).trans found)⟩

theorem clear (reflects : Reflects cache ttl history now) :
    Reflects cache.clear ttl (history ++ [(now, .clear)]) now where
  lifetime := reflects.lifetime
  held _ _ found := nomatch found
  kept key value expires holds _ := by
    rcases holds_concat.1 holds with ⟨_, stores, _⟩ | ⟨leaves, -⟩
    · cases stores
    · cases leaves

theorem get (reflects : Reflects cache ttl history now) (key : String) :
    Reflects (cache.get now key).1 ttl (history ++ [(now, .get key)]) now := by
  refine reflects.reap (fun _ => rfl) ?_ (cache.includes_get now key) fun other entry found live => ?_
  · unfold Expiring.get
    split
    · rfl
    · split <;> rfl
  · exact get?_get_of_live found live

theorem cleanup (reflects : Reflects cache ttl history now) :
    Reflects (cache.cleanup now).1 ttl (history ++ [(now, .cleanup)]) now :=
  reflects.reap (fun _ => rfl) rfl (Table.includes_filter _ _) fun _ _ found live =>
    get?_cleanup_of_live found live

/-- Whatever is asked, the entries reflect the history with the operation. -/
theorem perform (reflects : Reflects cache ttl history now) (operation : Operation ν) :
    Reflects (cache.perform now operation).1 ttl (history ++ [(now, operation)]) now := by
  cases operation with
  | set key value =>
    show Reflects (cache.setWithTtl now key value cache.defaultTtl) ttl _ now
    exact reflects.store (congrArg (fun own => some (key, value, own)) reflects.lifetime.symm)
      fun _ => decide_eq_false
  | setWithTtl key value lifetime => exact reflects.store rfl fun _ => decide_eq_false
  | get key => exact reflects.get key
  | delete key => exact reflects.delete key
  | clear => exact reflects.clear
  | cleanup => exact reflects.cleanup

/-- Entries reflect every history in the course of which the clock does not go back. -/
theorem run (ttl : Duration) (onward : Onward history now) :
    Reflects ((Expiring.create ttl : Expiring ν).run history) ttl history now := by
  induction history using List.reverseRecOn generalizing now with
  | nil => exact .create ttl now
  | append_singleton history step inductionHypothesis =>
    obtain ⟨time, operation⟩ := step
    obtain ⟨before, passes⟩ := onward.concat
    rw [run_concat]
    exact ((inductionHypothesis before).perform operation).later passes

/-- What the history serves is the value of a live entry. -/
theorem serves_iff (reflects : Reflects cache ttl history now) :
    Serves ttl history now key value ↔
      ∃ entry, cache.entries.get? key = some entry ∧ entry.isExpired now = false ∧ entry.value = value := by
  constructor
  · rintro ⟨expires, holds, ahead⟩
    obtain ⟨entry, found⟩ := reflects.kept key value expires holds ahead
    obtain ⟨rfl, rfl⟩ := (reflects.held key entry found).unique holds
    exact ⟨entry, found, Entry.isExpired_eq_false.2 ahead, rfl⟩
  · rintro ⟨entry, found, live, rfl⟩
    exact ⟨entry.expiresAt, reflects.held key entry found, Entry.isExpired_eq_false.1 live⟩

theorem get_eq_some_iff (reflects : Reflects cache ttl history now) :
    (cache.get now key).2 = some value ↔ Serves ttl history now key value := by
  rw [reflects.serves_iff]
  refine ⟨Expiring.get_eq_some, ?_⟩
  rintro ⟨entry, found, live, rfl⟩
  exact get_of_live found live

/-- As many entries are live as keys are served. -/
theorem size_eq (reflects : Reflects cache ttl history now) :
    ∃ keys : Finset String, (∀ key, key ∈ keys ↔ ∃ value, Serves ttl history now key value) ∧
      cache.size now = keys.card := by
  let live := cache.entries.filter fun _ entry => !entry.isExpired now
  refine ⟨(live.bindings.map Prod.fst).toFinset, fun key => ?_, ?_⟩
  · have found : (∃ entry, live.get? key = some entry) ↔ key ∈ live.bindings.map Prod.fst := by
      simp [Table.get?_eq_some_iff]
    rw [List.mem_toFinset, ← found, Table.get?_filter]
    simp [reflects.serves_iff, Option.filter_eq_some_iff]
  · rw [List.toFinset_card_of_nodup live.distinct, List.length_map]
    rfl

end Reflects

/-! ### Counters -/

theorem counters_perform (cache : Expiring ν) (now : Nat) (operation : Operation ν) :
    (cache.perform now operation).1.hits =
        cache.hits + (cache.perform now operation).2.toList.countP Option.isSome ∧
      (cache.perform now operation).1.misses =
        cache.misses + (cache.perform now operation).2.toList.countP Option.isNone := by
  cases operation with
  | set | setWithTtl | delete | clear | cleanup => exact ⟨rfl, rfl⟩
  | get key =>
    unfold perform get
    dsimp only
    split
    · exact ⟨rfl, rfl⟩
    · split <;> exact ⟨rfl, rfl⟩

/-- The counters count the reads that returned a value and those that did not. -/
theorem counters_run (ttl : Duration) (history : History ν) :
    let start : Expiring ν := create ttl
    (start.run history).hits = (start.reads history).countP Option.isSome ∧
      (start.run history).misses = (start.reads history).countP Option.isNone := by
  intro start
  induction history using List.reverseRecOn with
  | nil => exact ⟨rfl, rfl⟩
  | append_singleton history step inductionHypothesis =>
    obtain ⟨hits, misses⟩ := counters_perform (start.run history) step.1 step.2
    rw [run_concat, reads_concat, List.countP_append, List.countP_append, hits, misses,
      inductionHypothesis.1, inductionHypothesis.2]
    exact ⟨rfl, rfl⟩

/-! ### Cleanups -/

/-- What is read does not depend on cleanups. -/
theorem get_unreaped (ttl : Duration) (onward : Onward history now) (key : String) :
    (((create ttl : Expiring ν).run (unreaped history)).get now key).2 =
      (((create ttl : Expiring ν).run history).get now key).2 := by
  refine Option.ext fun value => ?_
  rw [(Reflects.run ttl onward).get_eq_some_iff, (Reflects.run ttl (onward_unreaped onward)).get_eq_some_iff]
  simp only [Serves, holds_unreaped]

theorem reads_unreaped (ttl : Duration) (onward : Onward history now) :
    (create ttl : Expiring ν).reads (unreaped history) = (create ttl : Expiring ν).reads history := by
  induction history using List.reverseRecOn generalizing now with
  | nil => rfl
  | append_singleton history step inductionHypothesis =>
    obtain ⟨time, operation⟩ := step
    obtain ⟨before, -⟩ := onward.concat
    have same := inductionHypothesis before
    have read := get_unreaped ttl before
    unfold unreaped at same read ⊢
    rw [List.filter_append, reads_concat]
    cases operation with
    | cleanup =>
      rw [List.filter_cons_of_neg (by simp [Operation.isCleanup]), List.filter_nil, List.append_nil, same]
      exact (List.append_nil _).symm
    | get key =>
      rw [List.filter_cons_of_pos (by rfl), List.filter_nil, reads_concat, same]
      exact congrArg (fun value => _ ++ [value]) (read key)
    | set | setWithTtl | delete | clear =>
      rw [List.filter_cons_of_pos (by rfl), List.filter_nil, reads_concat, same]
      rfl

theorem stats_unreaped (ttl : Duration) (onward : Onward history now) :
    ((create ttl : Expiring ν).run (unreaped history)).stats now =
      ((create ttl : Expiring ν).run history).stats now := by
  obtain ⟨keys, served, size⟩ := (Reflects.run ttl onward).size_eq
  obtain ⟨others, alsoServed, alsoSize⟩ := (Reflects.run ttl (onward_unreaped onward)).size_eq
  have same : others = keys := by
    ext key
    rw [served, alsoServed]
    simp only [Serves, holds_unreaped]
  unfold stats
  rw [(counters_run ttl _).1, (counters_run ttl _).2, (counters_run ttl history).1,
    (counters_run ttl history).2, reads_unreaped ttl onward, size, alsoSize, same]

/-- Whatever has been asked of the cache, as long as the clock has not gone back, a key is read as the value that
was stored there last, if it has not been deleted nor the cache cleared since and the expiry of the value lies
ahead, and else as nothing. As many entries are counted as there are such keys, and as many hits and misses as
reads have returned a value and none. Two histories that differ in their cleanups alone, however many they are
and wherever they stand, cannot be told apart by any of this. -/
theorem serves_last_stored (ttl : Duration) (history : History ν) {now : Nat}
    (onward : Onward history now) :
    let start : Expiring ν := create ttl
    let cache := start.run history
    (∀ key value, (cache.get now key).2 = some value ↔ Serves ttl history now key value) ∧
    (∃ keys : Finset String, (∀ key, key ∈ keys ↔ ∃ value, Serves ttl history now key value) ∧
      cache.size now = keys.card) ∧
    (cache.stats now).hits = (start.reads history).countP Option.isSome ∧
    (cache.stats now).misses = (start.reads history).countP Option.isNone ∧
    ∀ other, Onward other now → unreaped other = unreaped history →
      start.reads other = start.reads history ∧
      (∀ key, ((start.run other).get now key).2 = (cache.get now key).2) ∧
      (start.run other).stats now = cache.stats now := by
  intro start cache
  have reflects := Reflects.run ttl onward
  refine ⟨fun key value => reflects.get_eq_some_iff, reflects.size_eq, (counters_run ttl history).1,
    (counters_run ttl history).2, fun other alsoOnward same => ⟨?_, fun key => ?_, ?_⟩⟩
  · rw [← reads_unreaped ttl alsoOnward, same, reads_unreaped ttl onward]
  · rw [← get_unreaped ttl alsoOnward, same, get_unreaped ttl onward]
  · rw [← stats_unreaped ttl alsoOnward, same, stats_unreaped ttl onward]

/-- A value that expires is replaced by one that does not, and the other key is read too late. With cleanups in
between the same is read and counted. -/
theorem serves_last_stored_replaced :
    let brief : Duration := ⟨3 * Duration.nanosPerMilli⟩
    let history : History Nat := [(0, .setWithTtl "a" 1 brief), (1, .set "b" 2), (2, .setWithTtl "a" 3 ⟨0⟩),
      (6, .get "b")]
    let swept : History Nat := [(0, .setWithTtl "a" 1 brief), (1, .set "b" 2), (2, .setWithTtl "a" 3 ⟨0⟩),
      (5, .cleanup), (6, .get "b"), (8, .cleanup)]
    let start : Expiring Nat := create brief
    (Onward history 9 ∧ Onward swept 9) ∧ Serves brief history 9 "a" 3 ∧
      ((start.run history).entries.size = 1 ∧ (start.run (swept.take 4)).entries.size = 1 ∧
        (start.run (history.take 3)).entries.size = 2) ∧
      start.reads swept = [none] ∧ ((start.run swept).get 9 "a").2 = some 3 ∧
      (start.run swept).stats 9 = { hits := 0, misses := 1, currentSize := 1 } := by
  intro brief history swept start
  have onward : Onward history 9 := by decide
  have sweptOnward : Onward swept 9 := by decide
  obtain ⟨served, -, -, -, unseen⟩ := serves_last_stored brief history onward
  have read : ((start.run history).get 9 "a").2 = some 3 := by decide
  obtain ⟨reads, gets, stats⟩ := unseen swept sweptOnward rfl
  refine ⟨⟨onward, sweptOnward⟩, (served "a" 3).1 read, by decide, reads.trans (by decide),
    (gets "a").trans read, stats.trans (by decide)⟩

end Expiring

end Community.Cache
