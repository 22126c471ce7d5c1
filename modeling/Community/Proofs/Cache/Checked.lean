/-
This file proves that the bounded cache keeps its books in order. Its entries and its recency know the same keys,
and its memory is the weight of its entries. This is so between operations, but the books are also used within
them: weight is taken off the memory whenever an entry goes, and what is pushed out is looked up among the entries.
So the operations are stated once more with checks, as they would be carried out by somebody who trusts nothing. A
number that does not fit in 64 bits stops them, and so does a difference that falls below zero, a key that is to be
pushed out and has no entry, and a round of pushing out that is broken off.

As long as fewer than 2^64 touches are made and what is resident weighs less than 2^64 bytes, nothing ever stops
them, and the cache is what it is without the checks. The weight of the entries is that of the items of the queue
that the cache represents, so that of one of them can always be taken off.
-/

import Community.Proofs.Cache.Turnover

namespace Community.Cache

variable {ν : Type}

/-! ### Operations with checks -/

namespace Checked

/-- A sum that fits in 64 bits. -/
def sum? (one other : Nat) : Option Nat :=
  if one + other < UInt64.size then some (one + other) else none

/-- A difference that does not fall below zero. -/
def difference? (whole part : Nat) : Option Nat :=
  if part ≤ whole then some (whole - part) else none

def touch (recency : Recency) (key : String) : Option Recency :=
  (sum? recency.nextStamp 1).map fun next => { recency.touch key with nextStamp := next }

def remove (cache : Bounded ν) (key : String) : Option (Bounded ν) :=
  match cache.entries.get? key with
  | some entry =>
    (difference? cache.memory entry.sizeBytes).map fun memory =>
      { cache with
        entries := cache.entries.erase key
        recency := cache.recency.remove key
        memory }
  | none => some cache

def get (cache : Bounded ν) (now : Nat) (key : String) : Option (Bounded ν × Option ν) :=
  match cache.entries.get? key with
  | none => some ({ cache with misses := cache.misses + 1 }, none)
  | some entry =>
    if entry.isExpired now then
      (remove cache key).map fun removed => ({ removed with misses := cache.misses + 1 }, none)
    else
      (touch cache.recency key).map fun recency =>
        ({ cache with recency, hits := cache.hits + 1 }, some entry.value)

/-- Pushes out the least recently used entry, which must be there. -/
def evict (cache : Bounded ν) : Option (Bounded ν) :=
  match cache.recency.evictOldest with
  | (recency, some victim) => do
    let entry ← cache.entries.get? victim
    let memory ← difference? cache.memory entry.sizeBytes
    some
      { cache with
        entries := cache.entries.erase victim
        recency
        memory
        evictions := cache.evictions + 1 }
  | (_, none) => some cache

/-- Is there more to push out? -/
def isDue (kept : String) (cache : Bounded ν) : Bool :=
  cache.isOver && cache.recency.oldest?.any (· ≠ kept)

/-- Pushes out what is due. The count must not run out before. -/
def shrink (kept : String) : Nat → Bounded ν → Option (Bounded ν)
  | 0, cache => if isDue kept cache then none else some cache
  | count + 1, cache => if isDue kept cache then (evict cache).bind (shrink kept count) else some cache

def cleanup (cache : Bounded ν) (now : Nat) : Option (Bounded ν × Nat) :=
  let expired := (cache.entries.filter fun _ entry => entry.isExpired now).keys
  (expired.foldlM remove cache).map fun cleaned => (cleaned, expired.length)

variable [Weighed ν]

def setWithTtl (cache : Bounded ν) (now : Nat) (key : String) (value : ν) (ttl : Duration) :
    Option (Bounded ν) := do
  let others ← difference? cache.memory (((cache.entries.get? key).map Entry.sizeBytes).getD 0)
  let memory ← sum? others (weight value)
  let recency ← touch cache.recency key
  let filled :=
    { cache with
      entries := cache.entries.insert key (.create value (weight value) now ttl)
      recency
      memory }
  shrink key filled.recency.size filled

/-- Carries out an operation with checks; nothing if one of them stops it. -/
def perform (cache : Bounded ν) (now : Nat) : Operation ν → Option (Bounded ν × Answer ν)
  | .set key value => (setWithTtl cache now key value cache.config.ttl).map fun stored => (stored, .done)
  | .setWithTtl key value ttl => (setWithTtl cache now key value ttl).map fun stored => (stored, .done)
  | .get key => (get cache now key).map fun read => (read.1, .value read.2)
  | .peek key => some (cache, .value (cache.peek now key))
  | .contains key => some (cache, .flag (cache.contains now key))
  | .delete key => (remove cache key).map fun removed => (removed, .flag (cache.entries.contains key))
  | .clear => some (cache.clear, .done)
  | .cleanup => (cleanup cache now).map fun cleaned => (cleaned.1, .count cleaned.2)

/-- Carries out some operations with checks, each at its own reading of the clock. -/
def run (cache : Bounded ν) : List (Nat × Operation ν) → Option (Bounded ν)
  | [] => some cache
  | (now, operation) :: rest => (perform cache now operation).bind fun after => run after.1 rest

end Checked

/-! ### What the checks depend on -/

section Measures

variable [Weighed ν]

/-- The touches of keys. -/
def Bounded.touches (cache : Bounded ν) (now : Nat) : Operation ν → Nat
  | .set _ _ | .setWithTtl _ _ _ => 1
  | .get key => (cache.get now key).2.isSome.toNat
  | _ => 0

omit [Weighed ν] in
theorem Bounded.nextStamp_get (cache : Bounded ν) (now : Nat) (key : String) :
    (cache.get now key).1.recency.nextStamp =
      cache.recency.nextStamp + (cache.get now key).2.isSome.toNat := by
  unfold get
  split
  · rfl
  · split
    · exact (cache.sheds_remove key).nextStamp
    · rfl

/-- Every touch gives out one stamp. -/
theorem Bounded.nextStamp_perform (cache : Bounded ν) (now : Nat) (operation : Operation ν) :
    (cache.perform now operation).1.recency.nextStamp =
      cache.recency.nextStamp + cache.touches now operation := by
  cases operation with
  | set | setWithTtl => exact (sheds_shrink _ _ _).nextStamp
  | get key => exact cache.nextStamp_get now key
  | peek | contains | clear => rfl
  | delete key => exact (cache.sheds_remove key).nextStamp
  | cleanup => exact (cache.sheds_foldl_remove _).nextStamp

end Measures

/-! ### Nothing is stopped -/

namespace Checked

theorem sum?_eq {one other : Nat} (fits : one + other < UInt64.size) : sum? one other = some (one + other) :=
  if_pos fits

theorem difference?_eq {whole part : Nat} (within : part ≤ whole) :
    difference? whole part = some (whole - part) :=
  if_pos within

theorem touch_eq {recency : Recency} (few : recency.nextStamp + 1 < UInt64.size) (key : String) :
    touch recency key = some (recency.touch key) := by
  rw [touch, sum?_eq few]
  rfl

end Checked

namespace RepresentsExactly

variable {cache : Bounded ν} {queue : Queue ν} {key : String} {entry : Entry ν}

/-- The weight of an entry can be taken off, and what is left fits. -/
theorem difference_sizeBytes (represents : RepresentsExactly cache queue)
    (found : cache.entries.get? key = some entry) :
    Checked.difference? cache.memory entry.sizeBytes = some (word (cache.memory - entry.sizeBytes)) := by
  have within := represents.sizeBytes_le found
  rw [Checked.difference?_eq within, word_sub within (represents.memory ▸ represents.weight_lt)]

theorem remove_checked (represents : RepresentsExactly cache queue) (key : String) :
    Checked.remove cache key = some (cache.remove key) := by
  unfold Checked.remove Bounded.remove
  cases found : cache.entries.get? key with
  | none => rfl
  | some entry =>
    dsimp only
    rw [represents.difference_sizeBytes found]
    rfl

theorem get_checked (represents : RepresentsExactly cache queue) (now : Nat) (key : String)
    (few : cache.recency.nextStamp + (cache.get now key).2.isSome.toNat < UInt64.size) :
    Checked.get cache now key = some (cache.get now key) := by
  have removed := represents.remove_checked key
  unfold Checked.get
  unfold Bounded.get at few ⊢
  cases found : cache.entries.get? key with
  | none => rfl
  | some entry =>
    rw [found] at few
    dsimp only at few ⊢
    split
    · rw [removed]
      rfl
    · next live =>
      rw [if_neg live] at few
      rw [Checked.touch_eq few]
      rfl

/-- The key that is pushed out is that of the first item, which has an entry. -/
theorem evict_checked (represents : RepresentsExactly cache queue) : Checked.evict cache = some cache.evict := by
  have order : cache.recency.Orders (queue.items.map Item.key) := represents.words.order
  have keys : cache.entries.keys.Perm (queue.items.map Item.key) := represents.words.keys_perm
  unfold Checked.evict Bounded.evict
  cases items : queue.items with
  | nil =>
    rw [items] at order
    rw [order.evictOldest_nil]
  | cons first rest =>
    rw [items, List.map_cons] at order keys
    have known : first.key ∈ cache.entries.keys := keys.mem_iff.2 List.mem_cons_self
    obtain ⟨entry, found⟩ := Table.mem_keys.1 known
    rw [order.evictOldest_eq.1]
    dsimp only
    rw [found, Option.bind_eq_bind, Option.bind_some, represents.difference_sizeBytes found]
    rfl

theorem isDue_nil (represents : RepresentsExactly cache queue) (none : queue.items = []) (kept : String) :
    Checked.isDue kept cache = false := by
  have oldest : cache.recency.oldest? = (queue.items.map Item.key).head? := represents.words.order.oldest?_eq
  unfold Checked.isDue
  rw [oldest, none]
  exact Bool.and_false _

/-- As many rounds are enough as there are items. -/
theorem shrink_checked (represents : RepresentsExactly cache queue) {count : Nat}
    (enough : queue.items.length ≤ count) (kept : String) :
    Checked.shrink kept count cache = some (cache.shrink kept count) := by
  induction count generalizing cache queue with
  | zero =>
    have none := List.eq_nil_of_length_eq_zero (Nat.le_zero.1 enough)
    rw [Checked.shrink, represents.isDue_nil none]
    rfl
  | succ count inductionHypothesis =>
    unfold Checked.shrink Bounded.shrink Checked.isDue
    have oldest : cache.recency.oldest? = (queue.items.map Item.key).head? := represents.words.order.oldest?_eq
    cases items : queue.items with
    | nil =>
      rw [items] at oldest
      rw [oldest]
      simp
    | cons first rest =>
      rw [items] at oldest enough
      rw [oldest]
      have further := inductionHypothesis (represents.evict items) (Nat.le_of_succ_le_succ enough)
      by_cases exceeded : cache.isOver
      · by_cases spared : first.key = kept
        · simp [exceeded, spared]
        · simp [exceeded, spared, represents.evict_checked, further]
      · simp [exceeded]

theorem foldlM_remove_checked (represents : RepresentsExactly cache queue) (keys : List String) :
    keys.foldlM Checked.remove cache = some (keys.foldl Bounded.remove cache) := by
  induction keys generalizing cache queue with
  | nil => rfl
  | cons key rest inductionHypothesis =>
    rw [List.foldlM_cons, represents.remove_checked key]
    exact inductionHypothesis (represents.remove key)

theorem cleanup_checked (represents : RepresentsExactly cache queue) (now : Nat) :
    Checked.cleanup cache now = some (cache.cleanup now) := by
  unfold Checked.cleanup
  dsimp only
  rw [represents.foldlM_remove_checked]
  rfl

variable [Weighed ν]

theorem setWithTtl_checked (represents : RepresentsExactly cache queue) (now : Nat) (key : String) (value : ν)
    (ttl : Duration) (few : cache.recency.nextStamp + 1 < UInt64.size)
    (light : cache.memory - ((cache.entries.get? key).map Entry.sizeBytes).getD 0 + weight value < UInt64.size) :
    Checked.setWithTtl cache now key value ttl = some (cache.setWithTtl now key value ttl) := by
  have within := represents.replaced_le key
  have filled := represents.fill key (.create value (weight value) now ttl) light
  unfold Checked.setWithTtl Bounded.setWithTtl
  simp only [Checked.difference?_eq within, Checked.sum?_eq light, Checked.touch_eq few, Option.bind_eq_bind,
    Option.bind_some, word_sub_add within light]
  exact filled.shrink_checked (filled.words.order.size_eq.trans (List.length_map _)).symm.le key

/-- Whatever is asked, no check stops it, as long as there is a stamp for a touch and what is resident fits. -/
theorem perform_checked (represents : RepresentsExactly cache queue) (now : Nat) (operation : Operation ν)
    (few : cache.recency.nextStamp + cache.touches now operation < UInt64.size)
    (light : cache.peakWeight now operation < UInt64.size) :
    Checked.perform cache now operation = some (cache.perform now operation) := by
  unfold Checked.perform
  cases operation with
  | set key value =>
    dsimp only
    rw [represents.setWithTtl_checked now key value cache.config.ttl few light]
    rfl
  | setWithTtl key value ttl =>
    dsimp only
    rw [represents.setWithTtl_checked now key value ttl few light]
    rfl
  | get key =>
    dsimp only
    rw [represents.get_checked now key few]
    rfl
  | peek | contains | clear => rfl
  | delete key =>
    dsimp only
    rw [represents.remove_checked key]
    rfl
  | cleanup =>
    dsimp only
    rw [represents.cleanup_checked now]
    rfl

theorem run_checked (represents : RepresentsExactly cache queue) {history : List (Nat × Operation ν)}
    (few : cache.recency.nextStamp + (cache.tally Bounded.touches history).sum < UInt64.size)
    (light : ∀ weight ∈ cache.tally Bounded.peakWeight history, weight < UInt64.size) :
    Checked.run cache history = some (cache.run history) := by
  induction history generalizing cache queue with
  | nil => rfl
  | cons step rest inductionHypothesis =>
    obtain ⟨now, operation⟩ := step
    rw [Bounded.tally, List.sum_cons] at few
    rw [Bounded.tally, List.forall_mem_cons] at light
    rw [Checked.run, represents.perform_checked now operation (by omega) light.1, Option.bind_some, Bounded.run]
    refine inductionHypothesis (represents.perform light.1).1 ?_ light.2
    rw [Bounded.nextStamp_perform]
    omega

end RepresentsExactly

/-! ### Every run -/

/-- Whatever has been asked of a cache, each thing at its own reading of the clock, if fewer than 2^64 touches were
made and what was resident never weighed 2^64 bytes or more, then the recency knows the keys of the entries and no
others, by key as by stamp, and the memory is the weight of the entries. All of it can be carried out with checks
and comes to the same: no number ever leaves its range, nothing is ever taken off that is not there, and every key
that is pushed out has an entry. -/
theorem books_in_order [Weighed ν] (config : GroupConfig) (history : List (Nat × Operation ν))
    (few : ((Bounded.create config : Bounded ν).tally Bounded.touches history).sum < UInt64.size)
    (light : ∀ weight ∈ (Bounded.create config : Bounded ν).tally Bounded.peakWeight history,
      weight < UInt64.size) :
    let start : Bounded ν := .create config
    let cache := start.run history
    cache.recency.lastAccess.keys.Perm cache.entries.keys ∧
    cache.recency.byStamp.values.Perm cache.entries.keys ∧
    cache.memory = (cache.entries.values.map Entry.sizeBytes).sum ∧
    Checked.run start history = some cache := by
  intro start cache
  have created : RepresentsExactly start (.create config) := .create config
  have represents := created.run light
  have keys := represents.words.keys_perm.symm
  have weights : (cache.items.map Item.sizeBytes).sum = _ := (represents.words.items.map Item.sizeBytes).sum_eq
  refine ⟨represents.words.order.keys_perm.trans keys, ?_, ?_, created.run_checked ?_ light⟩
  · rw [Table.values, represents.words.order.values]
    exact keys
  · refine represents.memory.trans (weights.symm.trans ?_)
    rw [Bounded.items, Table.values, List.map_map, List.map_map]
    rfl
  · rw [show start.recency.nextStamp = 0 from rfl, Nat.zero_add]
    exact few

/-- A value is replaced, another expires and is read, and the third one to come in pushes out the first. With checks
it goes on to the end, and what is left weighs eight bytes. -/
theorem books_in_order_evicted :
    let config : GroupConfig := ⟨2, 10, .ofSeconds 60⟩
    let history : List (Nat × Operation String) :=
      [(0, .set "a" "one"), (1, .setWithTtl "b" "two" (.ofMillis 1)), (1, .set "a" "three"), (2, .get "b"),
        (3, .set "b" "four"), (4, .set "c" "five")]
    let start : Bounded String := .create config
    let cache := start.run history
    ((start.tally Bounded.touches history).sum < UInt64.size ∧
      ∀ weight ∈ start.tally Bounded.peakWeight history, weight < UInt64.size) ∧
    cache.entries.keys = ["b", "c"] ∧ cache.recency.lastAccess.keys.Perm ["b", "c"] ∧
    cache.memory = 8 ∧ (cache.entries.values.map Entry.sizeBytes).sum = 8 ∧ cache.evictions = 1 ∧
    (Checked.run start history).map Bounded.memory = some 8 := by
  intro config history
  dsimp only
  have few : ((Bounded.create config : Bounded String).tally Bounded.touches history).sum < UInt64.size := by
    decide
  have light : ∀ weight ∈ (Bounded.create config : Bounded String).tally Bounded.peakWeight history,
      weight < UInt64.size := by decide
  have keys : ((Bounded.create config : Bounded String).run history).entries.keys = ["b", "c"] := by decide
  have memory : ((Bounded.create config : Bounded String).run history).memory = 8 := by decide
  obtain ⟨known, -, weighs, checked⟩ := books_in_order config history few light
  rw [keys] at known
  refine ⟨⟨few, light⟩, keys, known, memory, weighs.symm.trans memory, by decide, ?_⟩
  rw [checked, Option.map_some, memory]

end Community.Cache
