/-
This file proves that the bounded cache behaves like a queue: a plain list of what is stored, from the least to
the most recently used. A read of a live item moves it to the end, a read of an expired one removes it, and
what is stored goes to the end in place of what its key held. Then items are dropped from the front, and only
from there, while the limits are exceeded and more than one is left. Whatever is asked of the cache, at
whatever readings of the clock, it answers what the queue answers, and its size, its memory and its count of
evictions are those of the queue.

A queue adds up the sizes of its items in the way it is told to. The cache represents one that does so in 64 bits,
as the cache does. A sum that starts anew when it is full depends on the items alone and not on the way they came
in, so nothing has to be assumed of their sizes here.
-/

import Mathlib
import Community.Cache.Bounded
import Community.Proofs.Cache.Recency

namespace Community.Cache

/-! ### Queues -/

/-- What is stored under a key. -/
structure Item (ν : Type) where
  key : String
  value : ν
  sizeBytes : Nat
  expiresAt : Option Nat

/-- Has the item expired? -/
def Item.isExpired {ν : Type} (item : Item ν) (now : Nat) : Bool :=
  item.expiresAt.any (· ≤ now)

/-- What is stored, from the least to the most recently used. -/
structure Queue (ν : Type) where
  config : GroupConfig
  items : List (Item ν) := []
  evictions : Nat := 0
  /-- How the sizes of items are added up. -/
  total : List Nat → Nat := List.sum

/-- The sum of sizes in 64 bits. -/
def wordSum (sizes : List Nat) : Nat :=
  word sizes.sum

namespace Queue

variable {ν : Type}

/-- The queue without items, under the limits that apply. -/
def create (config : GroupConfig) : Queue ν :=
  { config := effective config }

/-- The same queue, except that it adds up sizes in 64 bits. -/
def inWords (queue : Queue ν) : Queue ν :=
  { queue with total := wordSum }

/-- The item of a key. -/
def find? (queue : Queue ν) (key : String) : Option (Item ν) :=
  queue.items.find? (·.key = key)

/-- The items of the other keys. -/
def without (queue : Queue ν) (key : String) : List (Item ν) :=
  queue.items.filter (·.key ≠ key)

/-- The total weight of the items. -/
def memory (queue : Queue ν) : Nat :=
  queue.total (queue.items.map Item.sizeBytes)

/-- Reads a value; a live item goes to the end, and an expired one is removed. -/
def get (queue : Queue ν) (now : Nat) (key : String) : Queue ν × Option ν :=
  match queue.find? key with
  | none => (queue, none)
  | some item =>
    if item.isExpired now then ({ queue with items := queue.without key }, none)
    else ({ queue with items := queue.without key ++ [item] }, some item.value)

/-- The live value of a key. -/
def peek (queue : Queue ν) (now : Nat) (key : String) : Option ν :=
  ((queue.find? key).filter fun item => !item.isExpired now).map Item.value

/-- Is one of the limits exceeded? -/
def exceeds (config : GroupConfig) (total : List Nat → Nat) (items : List (Item ν)) : Bool :=
  config.capacity < items.length || config.maxMemory < total (items.map Item.sizeBytes)

/-- Drops items from the front while the limits are exceeded and more than one is left, and counts them. -/
def trim (config : GroupConfig) (total : List Nat → Nat) : List (Item ν) → List (Item ν) × Nat
  | first :: second :: rest =>
    if exceeds config total (first :: second :: rest) then
      ((trim config total (second :: rest)).1, (trim config total (second :: rest)).2 + 1)
    else (first :: second :: rest, 0)
  | items => (items, 0)

/-- Stores a value at the end, in place of what its key held, and drops what no longer fits. -/
def setWithTtl [Weighed ν] (queue : Queue ν) (now : Nat) (key : String) (value : ν) (ttl : Duration) :
    Queue ν :=
  let filled := queue.without key ++ [⟨key, value, weight value, expiry now ttl⟩]
  { queue with
    items := (trim queue.config queue.total filled).1
    evictions := queue.evictions + (trim queue.config queue.total filled).2 }

/-- Removes the expired items, and tells how many they were. -/
def cleanup (queue : Queue ν) (now : Nat) : Queue ν × Nat :=
  ({ queue with items := queue.items.filter fun item => !item.isExpired now },
    (queue.items.filter fun item => item.isExpired now).length)

end Queue

/-! ### Operations -/

/-- What can be asked of a cache. -/
inductive Operation (ν : Type) where
  | set (key : String) (value : ν)
  | setWithTtl (key : String) (value : ν) (ttl : Duration)
  | get (key : String)
  | peek (key : String)
  | contains (key : String)
  | delete (key : String)
  | clear
  | cleanup

/-- What is answered. -/
inductive Answer (ν : Type) where
  | done
  | value (found : Option ν)
  | flag (holds : Bool)
  | count (number : Nat)
  deriving DecidableEq

/-- What is seen of a cache after an operation. -/
structure Observation (ν : Type) where
  answer : Answer ν
  size : Nat
  memory : Nat
  evictions : Nat
  deriving DecidableEq

section Operations

variable {ν : Type} [Weighed ν]

/-- Carries out an operation at a reading of the clock. -/
def Bounded.perform (cache : Bounded ν) (now : Nat) : Operation ν → Bounded ν × Answer ν
  | .set key value => (cache.set now key value, .done)
  | .setWithTtl key value ttl => (cache.setWithTtl now key value ttl, .done)
  | .get key => ((cache.get now key).1, .value (cache.get now key).2)
  | .peek key => (cache, .value (cache.peek now key))
  | .contains key => (cache, .flag (cache.contains now key))
  | .delete key => ((cache.delete key).1, .flag (cache.delete key).2)
  | .clear => (cache.clear, .done)
  | .cleanup => ((cache.cleanup now).1, .count (cache.cleanup now).2)

/-- Carries out an operation at a reading of the clock. -/
def Queue.perform (queue : Queue ν) (now : Nat) : Operation ν → Queue ν × Answer ν
  | .set key value => (queue.setWithTtl now key value queue.config.ttl, .done)
  | .setWithTtl key value ttl => (queue.setWithTtl now key value ttl, .done)
  | .get key => ((queue.get now key).1, .value (queue.get now key).2)
  | .peek key => (queue, .value (queue.peek now key))
  | .contains key => (queue, .flag (queue.peek now key).isSome)
  | .delete key => ({ queue with items := queue.without key }, .flag (queue.find? key).isSome)
  | .clear => ({ queue with items := [] }, .done)
  | .cleanup => ((queue.cleanup now).1, .count (queue.cleanup now).2)

/-- What is seen of a cache in the course of some operations, each at its own reading of the clock. -/
def Bounded.observe (cache : Bounded ν) : List (Nat × Operation ν) → List (Observation ν)
  | [] => []
  | (now, operation) :: rest =>
    let after := cache.perform now operation
    ⟨after.2, after.1.size, after.1.memory, after.1.evictions⟩ :: after.1.observe rest

/-- What is seen of a queue in the course of some operations, each at its own reading of the clock. -/
def Queue.observe (queue : Queue ν) : List (Nat × Operation ν) → List (Observation ν)
  | [] => []
  | (now, operation) :: rest =>
    let after := queue.perform now operation
    ⟨after.2, after.1.items.length, after.1.memory, after.1.evictions⟩ :: after.1.observe rest

/-- The cache after some operations, each at its own reading of the clock. -/
def Bounded.run (cache : Bounded ν) : List (Nat × Operation ν) → Bounded ν
  | [] => cache
  | (now, operation) :: rest => (cache.perform now operation).1.run rest

/-- The queue after some operations, each at its own reading of the clock. -/
def Queue.run (queue : Queue ν) : List (Nat × Operation ν) → Queue ν
  | [] => queue
  | (now, operation) :: rest => (queue.perform now operation).1.run rest

/-- What a measure says of each of some operations, each at its own reading of the clock and of the cache as it is
then. -/
def Bounded.tally (cache : Bounded ν) (measure : Bounded ν → Nat → Operation ν → Nat) :
    List (Nat × Operation ν) → List Nat
  | [] => []
  | (now, operation) :: rest =>
    measure cache now operation :: (cache.perform now operation).1.tally measure rest

end Operations

/-! ### Sizes in 64 bits -/

theorem word_of_lt {number : Nat} (fits : number < UInt64.size) : word number = number := by
  unfold word UInt64.size at *
  omega

theorem word_sub {whole part : Nat} (within : part ≤ whole) (fits : whole < UInt64.size) :
    word (whole - part) = whole - part := by
  unfold word UInt64.size at *
  omega

theorem word_sub_add {whole part more : Nat} (within : part ≤ whole)
    (fits : whole - part + more < UInt64.size) : word (whole - part + more) = whole - part + more := by
  unfold word UInt64.size at *
  omega

theorem word_lt (number : Int) : word number < UInt64.size := by
  unfold word UInt64.size
  omega

theorem wordSum_perm {sizes others : List Nat} (same : sizes.Perm others) : wordSum sizes = wordSum others := by
  rw [wordSum, same.sum_eq, wordSum]

/-- To take a size off the sum is not to have it in. -/
theorem word_wordSum_cons_sub (size : Nat) (sizes : List Nat) :
    word (wordSum (size :: sizes) - size) = wordSum sizes := by
  unfold wordSum word UInt64.size
  rw [List.sum_cons]
  omega

theorem word_wordSum_add (sizes : List Nat) (size : Nat) :
    word (wordSum sizes + size) = wordSum (sizes ++ [size]) := by
  unfold wordSum word UInt64.size
  rw [List.sum_append, List.sum_singleton]
  omega

/-- A number that was brought down to 64 bits may as well be so at the end. -/
theorem word_word_add (number other : Int) : word (word number + other) = word (number + other) := by
  unfold word UInt64.size
  omega

/-! ### A cache represents a queue -/

variable {ν : Type}

/-- An entry with its key. -/
def Entry.item (key : String) (entry : Entry ν) : Item ν :=
  ⟨key, entry.value, entry.sizeBytes, entry.expiresAt⟩

/-- The items that a cache holds, in the order in which their keys arrived. -/
def Bounded.items (cache : Bounded ν) : List (Item ν) :=
  cache.entries.bindings.map fun binding => binding.2.item binding.1

/-- The cache holds the items of the queue and keeps their keys in its order. -/
structure Represents (cache : Bounded ν) (queue : Queue ν) : Prop where
  total : queue.total = wordSum
  config : cache.config = queue.config
  order : cache.recency.Orders (queue.items.map Item.key)
  items : cache.items.Perm queue.items
  memory : cache.memory = queue.memory
  evictions : cache.evictions = queue.evictions

@[simp] theorem Entry.isExpired_item (key : String) (entry : Entry ν) (now : Nat) :
    (entry.item key).isExpired now = entry.isExpired now := by
  unfold Item.isExpired Entry.isExpired Entry.item
  cases entry.expiresAt <;> rfl

namespace Queue

variable {queue : Queue ν} {key : String} {item : Item ν}

theorem find?_eq_some (distinct : (queue.items.map Item.key).Nodup) :
    queue.find? key = some item ↔ item ∈ queue.items ∧ item.key = key := by
  unfold find?
  constructor
  · intro found
    exact ⟨List.mem_of_find?_eq_some found, by simpa using List.find?_some found⟩
  · rintro ⟨member, rfl⟩
    cases found : queue.items.find? (·.key = item.key) with
    | none => simpa using List.find?_eq_none.1 found item member
    | some other =>
      have sameKey : other.key = item.key := by simpa using List.find?_some found
      rw [List.inj_on_of_nodup_map distinct (List.mem_of_find?_eq_some found) member sameKey]

theorem perm_cons_filter {items : List (Item ν)} (distinct : (items.map Item.key).Nodup)
    (member : item ∈ items) : items.Perm (item :: items.filter (·.key ≠ item.key)) := by
  induction items with
  | nil => cases member
  | cons head rest inductionHypothesis =>
    obtain ⟨absent, distinctRest⟩ := List.nodup_cons.1 distinct
    rcases List.mem_cons.1 member with rfl | later
    · have others : rest.filter (·.key ≠ item.key) = rest :=
        List.filter_eq_self.2 fun other isMember => decide_eq_true fun same =>
          absent (same ▸ List.mem_map_of_mem isMember)
      rw [List.filter_cons_of_neg (by simp), others]
    · have differs : head.key ≠ item.key := fun same =>
        absent (same ▸ List.mem_map_of_mem later)
      rw [List.filter_cons_of_pos (by simpa using differs)]
      exact ((inductionHypothesis distinctRest later).cons head).trans (List.Perm.swap _ _ _)

/-- The item of a key and the items of the others are all items. -/
theorem perm_cons_without (distinct : (queue.items.map Item.key).Nodup)
    (found : queue.find? key = some item) : queue.items.Perm (item :: queue.without key) := by
  obtain ⟨member, rfl⟩ := (find?_eq_some distinct).1 found
  exact perm_cons_filter distinct member

/-- Without an item of a key there is nothing to leave out. -/
theorem without_of_none (unknown : queue.find? key = none) : queue.without key = queue.items :=
  List.filter_eq_self.2 fun item member => by
    simpa using List.find?_eq_none.1 unknown item member

/-- The keys of the other items are the other keys. -/
theorem map_key_without :
    (queue.without key).map Item.key = (queue.items.map Item.key).filter (· ≠ key) := by
  rw [List.filter_map]
  rfl

theorem trim_cons {config : GroupConfig} {total : List Nat → Nat} {first : Item ν} {items : List (Item ν)}
    (more : items ≠ []) :
    trim config total (first :: items) =
      if exceeds config total (first :: items) then
        ((trim config total items).1, (trim config total items).2 + 1)
      else (first :: items, 0) := by
  cases items with
  | nil => exact absurd rfl more
  | cons second rest => rfl

end Queue

namespace Represents

variable {cache : Bounded ν} {queue : Queue ν} {key : String} {item : Item ν} {now : Nat}

theorem create (config : GroupConfig) :
    Represents (Bounded.create config : Bounded ν) (Queue.create config).inWords where
  total := rfl
  config := rfl
  order := .empty
  items := List.Perm.refl []
  memory := rfl
  evictions := rfl

theorem size_eq (represents : Represents cache queue) : cache.size = queue.items.length := by
  rw [← represents.items.length_eq]
  exact (List.length_map _).symm

/-- The keys of the entries are those of the items. -/
theorem keys_perm (represents : Represents cache queue) :
    cache.entries.keys.Perm (queue.items.map Item.key) := by
  have same := represents.items.map Item.key
  unfold Bounded.items at same
  rwa [List.map_map] at same

/-- A key leads to the same item in the cache and in the queue. -/
theorem get?_eq (represents : Represents cache queue) (key : String) :
    (cache.entries.get? key).map (·.item key) = queue.find? key := by
  have distinct := represents.order.distinct
  refine Option.ext fun item => ?_
  rw [Queue.find?_eq_some distinct, ← represents.items.mem_iff, Option.map_eq_some_iff]
  constructor
  · rintro ⟨entry, found, rfl⟩
    exact ⟨List.mem_map.2 ⟨(key, entry), Table.get?_eq_some_iff.1 found, rfl⟩, rfl⟩
  · rintro ⟨member, rfl⟩
    obtain ⟨⟨other, entry⟩, bound, rfl⟩ := List.mem_map.1 member
    exact ⟨entry, Table.get?_eq_some_iff.2 bound, rfl⟩

theorem memory_eq (represents : Represents cache queue) :
    cache.memory = wordSum (queue.items.map Item.sizeBytes) := by
  rw [represents.memory, Queue.memory, represents.total]

/-- Without one item, the total weight is that of the others. -/
theorem word_memory_sub (represents : Represents cache queue) (found : queue.find? key = some item) :
    word (cache.memory - item.sizeBytes) = wordSum ((queue.without key).map Item.sizeBytes) := by
  have all := Queue.perm_cons_without represents.order.distinct found
  rw [represents.memory_eq, wordSum_perm (all.map Item.sizeBytes), List.map_cons]
  exact word_wordSum_cons_sub _ _

theorem items_erase : 
    ({ cache with entries := cache.entries.erase key } : Bounded ν).items =
      cache.items.filter (·.key ≠ key) := by
  unfold Bounded.items
  rw [Table.bindings_erase, List.filter_map]
  rfl

/-- To remove a key from the cache is to leave its item out of the queue. -/
theorem remove (represents : Represents cache queue) (key : String) :
    Represents (cache.remove key) { queue with items := queue.without key } := by
  have leads := represents.get?_eq key
  unfold Bounded.remove
  split
  · next entry found =>
    rw [found] at leads
    refine ⟨represents.total, represents.config, ?_, ?_, ?_, represents.evictions⟩
    · rw [Queue.map_key_without]
      exact represents.order.remove key
    · exact items_erase ▸ represents.items.filter _
    · rw [Queue.memory, represents.total]
      exact represents.word_memory_sub leads.symm
  · next unknown =>
    rw [unknown] at leads
    rwa [Queue.without_of_none leads.symm]

/-- A live item that is read goes to the end. -/
theorem touch (represents : Represents cache queue) (found : queue.find? key = some item) :
    Represents { cache with recency := cache.recency.touch key }
      { queue with items := queue.without key ++ [item] } := by
  have all := Queue.perm_cons_without represents.order.distinct found
  have isKey := ((Queue.find?_eq_some represents.order.distinct).1 found).2
  have moved := all.trans (List.perm_append_singleton item (queue.without key)).symm
  refine ⟨represents.total, represents.config, ?_, represents.items.trans moved, ?_, represents.evictions⟩
  · rw [List.map_append, Queue.map_key_without, List.map_singleton, isKey]
    exact represents.order.touch key
  · rw [Queue.memory, represents.total, ← wordSum_perm (moved.map Item.sizeBytes)]
    exact represents.memory_eq

theorem get (represents : Represents cache queue) (now : Nat) (key : String) :
    Represents (cache.get now key).1 (queue.get now key).1 ∧
      (cache.get now key).2 = (queue.get now key).2 := by
  have leads := represents.get?_eq key
  unfold Bounded.get Queue.get
  cases found : cache.entries.get? key with
  | none =>
    rw [found] at leads
    rw [← leads]
    exact ⟨⟨represents.total, represents.config, represents.order, represents.items, represents.memory,
      represents.evictions⟩, rfl⟩
  | some entry =>
    rw [found] at leads
    rw [← leads]
    dsimp only [Option.map_some]
    rw [Entry.isExpired_item]
    split
    · have removed := represents.remove key
      exact ⟨⟨removed.total, removed.config, removed.order, removed.items, removed.memory, removed.evictions⟩, rfl⟩
    · have touched := represents.touch leads.symm
      exact ⟨⟨touched.total, touched.config, touched.order, touched.items, touched.memory, touched.evictions⟩, rfl⟩

theorem peek_eq (represents : Represents cache queue) (now : Nat) (key : String) :
    cache.peek now key = queue.peek now key := by
  unfold Bounded.peek Queue.peek
  rw [← represents.get?_eq key]
  cases cache.entries.get? key with
  | none => rfl
  | some entry =>
    simp only [Option.map_some, Option.filter_some, Entry.isExpired_item]
    split <;> rfl

/-! ### Storing -/

theorem isOver_eq (represents : Represents cache queue) :
    cache.isOver = Queue.exceeds queue.config queue.total queue.items := by
  unfold Bounded.isOver Queue.exceeds
  rw [represents.config, represents.memory, ← represents.size_eq]
  rfl

/-- The entry that is pushed out is that of the first item. -/
theorem evict {first : Item ν} {rest : List (Item ν)} (represents : Represents cache queue)
    (items : queue.items = first :: rest) :
    Represents cache.evict { queue with items := rest, evictions := queue.evictions + 1 } := by
  have distinct := represents.order.distinct
  have order := represents.order
  rw [items, List.map_cons] at order
  have found : queue.find? first.key = some first :=
    (Queue.find?_eq_some distinct).2 ⟨by rw [items]; exact List.mem_cons_self, rfl⟩
  have left : queue.without first.key = rest := by
    have all := Queue.perm_cons_without distinct found
    rw [items, List.map_cons, List.nodup_cons] at distinct
    unfold Queue.without
    rw [items, List.filter_cons_of_neg (by simp)]
    exact List.filter_eq_self.2 fun other member => decide_eq_true fun same =>
      distinct.1 (same ▸ List.mem_map_of_mem member)
  have leads := represents.get?_eq first.key
  rw [found, Option.map_eq_some_iff] at leads
  obtain ⟨entry, bound, -⟩ := leads
  have removed := represents.remove first.key
  rw [left] at removed
  unfold Bounded.remove at removed
  rw [bound] at removed
  unfold Bounded.evict
  rw [order.evictOldest_eq.1]
  dsimp only at removed ⊢
  rw [bound]
  exact ⟨removed.total, removed.config, removed.order, removed.items, removed.memory,
    congrArg (· + 1) removed.evictions⟩

/-- What no longer fits is pushed out of the cache as it is dropped from the queue. The last item is the one
that has just been stored, and it never goes. -/
theorem shrink {config : GroupConfig} {total : List Nat → Nat} {front : List (Item ν)} {last : Item ν}
    {evictions count : Nat} (represents : Represents cache ⟨config, front ++ [last], evictions, total⟩)
    (enough : front.length ≤ count) :
    Represents (cache.shrink last.key count)
      ⟨config, (Queue.trim config total (front ++ [last])).1,
        evictions + (Queue.trim config total (front ++ [last])).2, total⟩ := by
  induction front generalizing cache evictions count with
  | nil =>
    have stays : cache.shrink last.key count = cache := by
      cases count with
      | zero => rfl
      | succ count =>
        have alone : cache.recency.oldest? = some last.key := represents.order.oldest?_eq
        unfold Bounded.shrink
        simp only [alone, if_true, ite_self]
    rw [stays]
    exact represents
  | cons first rest inductionHypothesis =>
    obtain ⟨fuel, rfl⟩ : ∃ fuel, count = fuel + 1 := Nat.exists_eq_succ_of_ne_zero (by
      rw [List.length_cons] at enough
      omega)
    have oldest : cache.recency.oldest? = some first.key := represents.order.oldest?_eq
    have differs : first.key ≠ last.key := fun same =>
      (List.nodup_cons.1 represents.order.distinct).1 (by rw [same]; simp)
    rw [List.cons_append, Queue.trim_cons (List.concat_ne_nil last rest)]
    unfold Bounded.shrink
    rw [represents.isOver_eq, oldest]
    dsimp only [List.cons_append]
    rw [if_neg differs]
    by_cases exceeded : Queue.exceeds config total (first :: (rest ++ [last]))
    · have further := inductionHypothesis (represents.evict rfl) (Nat.le_of_succ_le_succ enough)
      rw [Nat.add_assoc, Nat.add_comm 1] at further
      rw [if_pos exceeded, if_pos exceeded]
      exact further
    · rw [if_neg exceeded, if_neg exceeded]
      exact represents

theorem items_insert (entry : Entry ν) :
    ({ cache with entries := cache.entries.insert key entry } : Bounded ν).items.Perm
      (cache.items.filter (·.key ≠ key) ++ [entry.item key]) := by
  rw [← items_erase]
  unfold Bounded.items
  have inserted := Table.bindings_insert_perm cache.entries key entry
  simpa using inserted.map fun binding => binding.2.item binding.1

/-- The total weight of the items of the other keys. -/
theorem word_memory_without (represents : Represents cache queue) (key : String) :
    word (cache.memory - ((cache.entries.get? key).map Entry.sizeBytes).getD 0) =
      wordSum ((queue.without key).map Item.sizeBytes) := by
  have leads := represents.get?_eq key
  cases found : cache.entries.get? key with
  | none =>
    rw [found] at leads
    rw [Queue.without_of_none leads.symm, represents.memory_eq]
    exact word_of_lt (word_lt _)
  | some entry =>
    rw [found] at leads
    exact represents.word_memory_sub leads.symm

/-- What is stored goes to the end, in place of what its key held. -/
theorem fill (represents : Represents cache queue) (key : String) (entry : Entry ν) :
    Represents
      { cache with
        entries := cache.entries.insert key entry
        recency := cache.recency.touch key
        memory :=
          word (cache.memory - ((cache.entries.get? key).map Entry.sizeBytes).getD 0 + entry.sizeBytes) }
      { queue with items := queue.without key ++ [entry.item key] } := by
  refine ⟨represents.total, represents.config, ?_, ?_, ?_, represents.evictions⟩
  · rw [List.map_append, Queue.map_key_without]
    exact represents.order.touch key
  · exact (items_insert _).trans ((represents.items.filter _).append_right _)
  · rw [Queue.memory, represents.total, List.map_append, List.map_singleton, ← word_word_add,
      represents.word_memory_without key]
    exact word_wordSum_add _ _

theorem setWithTtl [Weighed ν] (represents : Represents cache queue) (now : Nat) (key : String)
    (value : ν) (ttl : Duration) :
    Represents (cache.setWithTtl now key value ttl) (queue.setWithTtl now key value ttl) := by
  have filled := represents.fill key (.create value (weight value) now ttl)
  unfold Bounded.setWithTtl
  refine filled.shrink ?_
  dsimp only
  rw [filled.order.size_eq]
  simp

/-! ### Removing -/

theorem clear (represents : Represents cache queue) :
    Represents cache.clear { queue with items := [] } where
  total := represents.total
  config := represents.config
  order := .clear _
  items := List.Perm.refl []
  memory := by
    rw [Queue.memory, represents.total]
    rfl
  evictions := represents.evictions

/-- Keys that are removed one after the other leave the items of the other keys. -/
theorem removeAll (represents : Represents cache queue) (keys : List String) :
    Represents (keys.foldl Bounded.remove cache)
      { queue with items := queue.items.filter fun item => item.key ∉ keys } := by
  induction keys generalizing cache queue with
  | nil => simpa using represents
  | cons key rest inductionHypothesis =>
    have further := inductionHypothesis (represents.remove key)
    unfold Queue.without at further
    simp only [List.filter_filter] at further
    refine cast (congrArg _ ?_) further
    congr 1
    refine List.filter_congr fun item member => ?_
    simp [Bool.and_comm]

/-- The keys that a cleanup removes are those of the expired items. -/
theorem keys_filter_isExpired (cache : Bounded ν) (now : Nat) :
    (cache.entries.filter fun _ entry => entry.isExpired now).keys =
      (cache.items.filter (·.isExpired now)).map Item.key := by
  unfold Table.keys Table.filter Bounded.items
  rw [List.filter_map, List.map_map]
  simp only [Function.comp_def, Entry.isExpired_item]
  rfl

theorem cleanup (represents : Represents cache queue) (now : Nat) :
    Represents (cache.cleanup now).1 (queue.cleanup now).1 ∧
      (cache.cleanup now).2 = (queue.cleanup now).2 := by
  have expired := represents.items.filter (·.isExpired now)
  unfold Bounded.cleanup Queue.cleanup
  dsimp only
  rw [keys_filter_isExpired]
  constructor
  · have removed := represents.removeAll ((cache.items.filter (·.isExpired now)).map Item.key)
    have same : queue.items.filter (fun item =>
        item.key ∉ (cache.items.filter (·.isExpired now)).map Item.key) =
          queue.items.filter fun item => !item.isExpired now := by
      refine List.filter_congr fun item member => ?_
      rw [Bool.eq_iff_iff, decide_eq_true_iff, Bool.not_eq_true', ← Bool.not_eq_true, not_congr]
      rw [(expired.map Item.key).mem_iff, List.mem_map]
      constructor
      · rintro ⟨other, among, sameKey⟩
        obtain ⟨isMember, isExpired⟩ := List.mem_filter.1 among
        rwa [← List.inj_on_of_nodup_map represents.order.distinct isMember member sameKey]
      · exact fun isExpired => ⟨item, List.mem_filter.2 ⟨member, isExpired⟩, rfl⟩
    rwa [same] at removed
  · rw [List.length_map, expired.length_eq]

/-! ### Operations -/

variable [Weighed ν]

/-- Whatever is asked, the cache answers like the queue and represents it again. -/
theorem perform (represents : Represents cache queue) (now : Nat) (operation : Operation ν) :
    Represents (cache.perform now operation).1 (queue.perform now operation).1 ∧
      (cache.perform now operation).2 = (queue.perform now operation).2 := by
  cases operation with
  | set key value =>
    have stored := represents.setWithTtl now key value cache.config.ttl
    refine ⟨?_, rfl⟩
    show Represents (cache.setWithTtl ..) (queue.setWithTtl now key value queue.config.ttl)
    rwa [← represents.config]
  | setWithTtl key value ttl => exact ⟨represents.setWithTtl now key value ttl, rfl⟩
  | get key =>
    obtain ⟨further, same⟩ := represents.get now key
    exact ⟨further, congrArg Answer.value same⟩
  | peek key => exact ⟨represents, congrArg Answer.value (represents.peek_eq now key)⟩
  | contains key =>
    refine ⟨represents, congrArg Answer.flag ?_⟩
    rw [Bounded.contains, represents.peek_eq now key]
  | delete key =>
    refine ⟨represents.remove key, congrArg Answer.flag ?_⟩
    rw [← represents.get?_eq key, Option.isSome_map]
    rfl
  | clear => exact ⟨represents.clear, rfl⟩
  | cleanup =>
    obtain ⟨further, same⟩ := represents.cleanup now
    exact ⟨further, congrArg Answer.count same⟩

theorem observe (represents : Represents cache queue) (history : List (Nat × Operation ν)) :
    cache.observe history = queue.observe history := by
  induction history generalizing cache queue with
  | nil => rfl
  | cons step rest inductionHypothesis =>
    obtain ⟨further, answer⟩ := represents.perform step.1 step.2
    rw [Bounded.observe, Queue.observe]
    rw [answer, further.size_eq, further.memory, further.evictions, inductionHypothesis further]

theorem run (represents : Represents cache queue) (history : List (Nat × Operation ν)) :
    Represents (cache.run history) (queue.run history) := by
  induction history generalizing cache queue with
  | nil => exact represents
  | cons step rest inductionHypothesis =>
    exact inductionHypothesis (represents.perform step.1 step.2).1

end Represents

end Community.Cache
