/-
This file proves that the bounded cache keeps its bounds. At every moment it holds at most as many entries as
its capacity says, and they weigh at most what its memory bound says, unless there is a single one, which may
weigh more. The argument is about the queue that a cache represents. Storing drops items from the front until
the limits are met or one item is left, and that one is what has just been stored. Whatever else is asked of
the cache leaves a part of the items, in some order, and parts of what is within the limits are within them.

The bound on the weight is kept as long as sizes can be added up. A sum in 64 bits that has started anew says little,
and to take a part away from it can make it large.
-/

import Community.Proofs.Cache.Entries
import Community.Proofs.Cache.Exact

namespace Community.Cache

variable {ν : Type} {config : GroupConfig} {items kept : List (Item ν)} {key : String}

/-! ### Limits of a list of items -/

/-- Are the items within the limits? A single one may weigh more than the bound. -/
structure Within (config : GroupConfig) (items : List (Item ν)) : Prop where
  length : items.length ≤ config.capacity
  weight : (items.map Item.sizeBytes).sum ≤ config.maxMemory ∨ items.length ≤ 1

namespace Within

theorem nil (config : GroupConfig) : Within config ([] : List (Item ν)) where
  length := Nat.zero_le _
  weight := Or.inl (Nat.zero_le _)

/-- What is left of items within the limits is within them, in whatever order. -/
theorem subperm (within : Within config items) (part : kept.Subperm items) : Within config kept where
  length := part.length_le.trans within.length
  weight := within.weight.imp (Queue.weight_le_of_subperm part).trans part.length_le.trans

/-- Nothing weighs nothing, so what weighs too much is one item. -/
theorem weight_or_single (within : Within config items) :
    (items.map Item.sizeBytes).sum ≤ config.maxMemory ∨ items.length = 1 := by
  rcases within.weight with light | few
  · exact Or.inl light
  · match items, few with
    | [], _ => exact Or.inl (Nat.zero_le _)
    | [_], _ => exact Or.inr rfl

end Within

/-! ### Dropping what no longer fits -/

namespace Queue

variable {total : List Nat → Nat}

theorem exceeds_eq_false :
    exceeds config total items = false ↔
      items.length ≤ config.capacity ∧ total (items.map Item.sizeBytes) ≤ config.maxMemory := by
  simp [exceeds]

/-- What is left is within the limits by its number and by its total, because a single item always fits. -/
theorem fits_trim (positive : 0 < config.capacity) (items : List (Item ν)) :
    (trim config total items).1.length ≤ config.capacity ∧
      (total ((trim config total items).1.map Item.sizeBytes) ≤ config.maxMemory ∨
        (trim config total items).1.length ≤ 1) := by
  fun_induction trim config total items with
  | case1 first second rest _ inductionHypothesis => exact inductionHypothesis
  | case2 first second rest fits =>
    obtain ⟨length, weight⟩ := exceeds_eq_false.1 (Bool.not_eq_true _ ▸ fits)
    exact ⟨length, Or.inl weight⟩
  | case3 items short =>
    rcases items with _ | ⟨first, _ | ⟨second, rest⟩⟩
    · exact ⟨Nat.zero_le _, Or.inr (Nat.zero_le _)⟩
    · exact ⟨positive, Or.inr (Nat.le_refl _)⟩
    · exact (short first second rest rfl).elim

theorem within_trim (positive : 0 < config.capacity) (items : List (Item ν)) :
    Within config (trim config List.sum items).1 :=
  ⟨(fits_trim positive items).1, (fits_trim positive items).2⟩

/-! ### What an operation keeps -/

variable {queue : Queue ν} {now : Nat}

theorem config_get (queue : Queue ν) (now : Nat) (key : String) :
    (queue.get now key).1.config = queue.config := by
  unfold get
  split
  · rfl
  · split <;> rfl

variable [Weighed ν]

theorem config_perform (queue : Queue ν) (now : Nat) (operation : Operation ν) :
    (queue.perform now operation).1.config = queue.config := by
  cases operation with
  | get key => exact queue.config_get now key
  | set | setWithTtl | peek | contains | delete | clear | cleanup => rfl

/-- However sizes are added up, there are no more items than the capacity says. -/
theorem length_perform_le (positive : 0 < queue.config.capacity)
    (distinct : (queue.items.map Item.key).Nodup) (few : queue.items.length ≤ queue.config.capacity)
    (operation : Operation ν) : (queue.perform now operation).1.items.length ≤ queue.config.capacity := by
  cases operation with
  | set | setWithTtl => exact (fits_trim positive _).1
  | get key => exact (subperm_get distinct).length_le.trans few
  | peek | contains => exact few
  | delete | cleanup => exact List.filter_sublist.length_le.trans few
  | clear => exact Nat.zero_le _

theorem within_perform (exactly : queue.total = List.sum) (positive : 0 < queue.config.capacity)
    (distinct : (queue.items.map Item.key).Nodup) (within : Within queue.config queue.items)
    (operation : Operation ν) : Within queue.config (queue.perform now operation).1.items := by
  cases operation with
  | set key value =>
    unfold perform setWithTtl
    rw [exactly]
    exact within_trim positive _
  | setWithTtl key value ttl =>
    unfold perform setWithTtl
    rw [exactly]
    exact within_trim positive _
  | get key => exact within.subperm (subperm_get distinct)
  | peek | contains => exact within
  | delete | cleanup => exact within.subperm List.filter_sublist.subperm
  | clear => exact .nil _

end Queue

/-! ### Every run -/

section Runs

variable [Weighed ν]

theorem capacity_effective_pos (config : GroupConfig) : 0 < (effective config).capacity := by
  unfold effective
  dsimp only
  split
  · decide
  · next configured => exact Nat.pos_of_ne_zero configured

theorem Represents.length_run_le {cache : Bounded ν} {queue : Queue ν} (represents : Represents cache queue)
    (positive : 0 < queue.config.capacity) (few : queue.items.length ≤ queue.config.capacity)
    (history : List (Nat × Operation ν)) :
    (queue.run history).items.length ≤ queue.config.capacity := by
  induction history generalizing cache queue with
  | nil => exact few
  | cons step rest inductionHypothesis =>
    have sameConfig := queue.config_perform step.1 step.2
    have further := inductionHypothesis (represents.perform step.1 step.2).1 (sameConfig ▸ positive)
      (sameConfig ▸ Queue.length_perform_le positive represents.order.distinct few step.2)
    rw [sameConfig] at further
    exact further

theorem RepresentsExactly.within_run {cache : Bounded ν} {queue : Queue ν}
    (represents : RepresentsExactly cache queue) (positive : 0 < queue.config.capacity)
    (within : Within queue.config queue.items) {history : List (Nat × Operation ν)}
    (fits : ∀ weight ∈ cache.tally Bounded.peakWeight history, weight < UInt64.size) :
    Within queue.config (queue.run history).items := by
  induction history generalizing cache queue with
  | nil => exact within
  | cons step rest inductionHypothesis =>
    rw [Bounded.tally, List.forall_mem_cons] at fits
    have sameConfig := queue.config_perform step.1 step.2
    have distinct := represents.words.order.distinct
    have further := inductionHypothesis (represents.perform fits.1).1 (sameConfig ▸ positive)
      (sameConfig ▸ Queue.within_perform represents.total positive distinct within step.2) fits.2
    rw [sameConfig] at further
    exact further

/-- Whatever has been asked of a cache, at whatever readings of the clock, it holds at most as many entries as its
capacity says, and what is stored next is among its entries right afterwards, with the expiry that it was stored
for. As long as what was resident weighed less than 2^64 bytes at every moment, the entries weigh no more than the
memory bound that applies unless there is exactly one. -/
theorem limits_kept (config : GroupConfig) (history : List (Nat × Operation ν)) :
    let limits := effective config
    let start : Bounded ν := .create config
    let cache := start.run history
    cache.size ≤ limits.capacity ∧
    (∀ now key value ttl, (cache.setWithTtl now key value ttl).entries.get? key =
      some (.create value (weight value) now ttl)) ∧
    ((∀ weight ∈ start.tally Bounded.peakWeight history, weight < UInt64.size) →
      cache.memory ≤ limits.maxMemory ∨ cache.size = 1) := by
  intro limits start cache
  have words : Represents start (Queue.create config).inWords := .create config
  have positive : 0 < limits.capacity := capacity_effective_pos config
  refine ⟨?_, cache.get?_setWithTtl_self, fun fits => ?_⟩
  · rw [(words.run history).size_eq]
    exact words.length_run_le positive (Nat.zero_le _) history
  · have exact : RepresentsExactly start (.create config) := .create config
    have represents := exact.run fits
    have within : Within limits ((Queue.create config : Queue ν).run history).items :=
      exact.within_run positive (.nil _) fits
    have size : cache.size = ((Queue.create config : Queue ν).run history).items.length :=
      represents.words.size_eq
    rw [size, represents.memory]
    exact within.weight_or_single

/-- The third value does not fit beside the others, and the fourth weighs more than the bound by itself. -/
theorem limits_kept_alone :
    let history : List (Nat × Operation String) :=
      [(0, .set "a" "one"), (1, .set "b" "two"), (2, .set "c" "three"), (3, .set "d" "seventeen")]
    let start : Bounded String := .create ⟨2, 8, .ofSeconds 60⟩
    (∀ weight ∈ start.tally Bounded.peakWeight history, weight < UInt64.size) ∧
      (start.run history).size ≤ 2 ∧ ¬(start.run history).memory ≤ 8 ∧ (start.run history).size = 1 := by
  intro history start
  have light : ∀ weight ∈ start.tally Bounded.peakWeight history, weight < UInt64.size := by decide
  have heavy : ¬(start.run history).memory ≤ 8 := by decide
  obtain ⟨few, -, limited⟩ := limits_kept ⟨2, 8, .ofSeconds 60⟩ history
  exact ⟨light, few, heavy, (limited light).resolve_left heavy⟩

/-- Two values of 2^63 bytes are taken to weigh nothing together, so a third one is stored beside them, and once one
of the two is deleted what is left exceeds the bound and is not a single entry. And a value that is stored for a
nanosecond is not served at the same reading of the clock, although it is among the entries. -/
theorem limits_kept_heavy :
    let bound : Nat := 2 ^ 63 - 1
    let history : List (Nat × Operation Weight) :=
      [(0, .set "a" ⟨2 ^ 63⟩), (0, .set "b" ⟨2 ^ 63⟩), (0, .set "c" ⟨1⟩), (0, .delete "b")]
    let cache := (Bounded.create ⟨10, bound, .ofSeconds 10⟩).run history
    let short : Bounded String := (Bounded.create ⟨10, 1000, .ofSeconds 10⟩).setWithTtl 0 "k" "v" ⟨1⟩
    cache.memory = bound + 2 ∧ cache.size = 2 ∧ short.contains 0 "k" = false ∧ short.size = 1 := by decide

end Runs

end Community.Cache
