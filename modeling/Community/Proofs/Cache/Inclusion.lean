/-
This file proves that a larger capacity never hurts. Two caches whose limits differ in the capacity alone are
asked the same at the same readings of the clock, and the memory bound is never in the way. Then whatever is in
the one with the smaller capacity is in the other, with the same value and the same expiry, so the other
answers every read that the first one answers.

The caches do not keep the same order of use: a read that misses in the first may find the key in the other and
make it the most recently used there. What they have in common is the order of the items that both hold. The
queue of the first is a part of the queue of the other, in the same order, and it lacks at most as many items as
the capacities differ by. So the other never drops an item that the first one keeps: an item at the front of
both goes from both, because the other is full only when the first one is.

A memory bound of less than 2^64 bytes that is never exceeded keeps sums in 64 bits from being full, and no sum in 64
bits exceeds a larger one.
-/

import Community.Proofs.Cache.Turnover

namespace Community.Cache

variable {ν : Type} {less more : Nat} {narrow wide : List (Item ν)}

/-! ### Parts of a list that lack little -/

/-- The first list is a part of the other in its order, and lacks at most as many items as the bounds differ
by. -/
structure Nested (less more : Nat) (narrow wide : List (Item ν)) : Prop where
  part : narrow.Sublist wide
  gap : wide.length + less ≤ narrow.length + more

namespace Nested

/-- Both lose the same kind of items: what the first one loses, the other loses too. -/
theorem filter (nested : Nested less more narrow wide) (keep : Item ν → Bool) :
    Nested less more (narrow.filter keep) (wide.filter keep) where
  part := nested.part.filter keep
  gap := by
    have narrowSplit := narrow.length_eq_length_filter_add keep
    have wideSplit := wide.length_eq_length_filter_add keep
    have lost := (nested.part.filter fun item => !keep item).length_le
    have gap := nested.gap
    omega

theorem concat (nested : Nested less more narrow wide) (item : Item ν) :
    Nested less more (narrow ++ [item]) (wide ++ [item]) where
  part := nested.part.append (List.Sublist.refl _)
  gap := by
    have gap := nested.gap
    simp only [List.length_append, List.length_singleton]
    omega

/-- Both drop from the front what exceeds their bounds. The other drops no more than the first. -/
theorem drop (nested : Nested less more narrow wide) :
    Nested less more (narrow.drop (narrow.length - less)) (wide.drop (wide.length - more)) where
  part := by
    have gap := nested.gap
    have further : narrow.drop (narrow.length - less) <:+ narrow.drop (wide.length - more) :=
      List.drop_suffix_drop_left narrow (by omega)
    exact further.sublist.trans (nested.part.drop _)
  gap := by
    have gap := nested.gap
    simp only [List.length_drop]
    omega

end Nested

/-! ### Queues under two capacities -/

namespace Queue

variable {config : GroupConfig} {items : List (Item ν)}

/-- As long as the weight is within its bound, items go for their number alone. -/
theorem trim_of_light (positive : 0 < config.capacity) {total : List Nat → Nat}
    (light : ∀ part, part <:+ items → total (part.map Item.sizeBytes) ≤ config.maxMemory) :
    (trim config total items).1 = items.drop (items.length - config.capacity) := by
  fun_induction trim config total items with
  | case1 first second rest exceeded inductionHypothesis =>
    have tooMany : config.capacity < (second :: rest).length + 1 := by
      by_contra fits
      have within := exceeds_eq_false.2 ⟨Nat.not_lt.1 fits, light _ (List.suffix_refl _)⟩
      rw [exceeded] at within
      cases within
    have lighter : ∀ part, part <:+ second :: rest → total (part.map Item.sizeBytes) ≤ config.maxMemory :=
      fun part suffix => light part (suffix.trans (List.suffix_cons first _))
    have oneMore : (first :: second :: rest).length - config.capacity =
        (second :: rest).length - config.capacity + 1 := Nat.succ_sub (Nat.le_of_lt_succ tooMany)
    rw [oneMore, List.drop_succ_cons]
    exact inductionHypothesis lighter
  | case2 first second rest fits =>
    have within := (exceeds_eq_false.1 (Bool.not_eq_true _ ▸ fits)).1
    rw [Nat.sub_eq_zero_of_le within, List.drop_zero]
  | case3 items short =>
    have within : items.length ≤ config.capacity := by
      rcases items with _ | ⟨first, _ | ⟨second, rest⟩⟩
      · exact Nat.zero_le _
      · exact positive
      · exact (short first second rest rfl).elim
    rw [Nat.sub_eq_zero_of_le within, List.drop_zero]

/-- The limits of the first queue differ from those of the other in a smaller capacity, and what it holds is
nested in what the other holds. -/
structure Narrower (narrow wide : Queue ν) : Prop where
  positive : 0 < narrow.config.capacity
  capacity : narrow.config.capacity ≤ wide.config.capacity
  maxMemory : narrow.config.maxMemory = wide.config.maxMemory
  ttl : narrow.config.ttl = wide.config.ttl
  nested : Nested narrow.config.capacity wide.config.capacity narrow.items wide.items

namespace Narrower

variable {narrow wide : Queue ν} {key : String} {item : Item ν} {now : Nat} {value : ν}

theorem create {first second : GroupConfig}
    (capacity : (effective first).capacity ≤ (effective second).capacity)
    (maxMemory : (effective first).maxMemory = (effective second).maxMemory)
    (ttl : (effective first).ttl = (effective second).ttl) :
    Narrower (Queue.create first : Queue ν).inWords (Queue.create second).inWords where
  positive := capacity_effective_pos first
  capacity := capacity
  maxMemory := maxMemory
  ttl := ttl
  nested := ⟨List.Sublist.refl _, by simpa [Queue.create, inWords] using capacity⟩

/-- Other items, in the place of those there are. -/
theorem of_nested (narrower : Narrower narrow wide) {first second : List (Item ν)}
    {firstEvictions secondEvictions : Nat} {firstTotal secondTotal : List Nat → Nat}
    (nested : Nested narrow.config.capacity wide.config.capacity first second) :
    Narrower ⟨narrow.config, first, firstEvictions, firstTotal⟩
      ⟨wide.config, second, secondEvictions, secondTotal⟩ :=
  ⟨narrower.positive, narrower.capacity, narrower.maxMemory, narrower.ttl, nested⟩

theorem positive_wide (narrower : Narrower narrow wide) : 0 < wide.config.capacity :=
  Nat.lt_of_lt_of_le narrower.positive narrower.capacity

/-- Both hold the same item for a key, if the first one holds any. -/
theorem find?_eq_some (narrower : Narrower narrow wide) (distinct : (wide.items.map Item.key).Nodup)
    (found : narrow.find? key = some item) : wide.find? key = some item := by
  have distinctNarrow := distinct.sublist (narrower.nested.part.map Item.key)
  obtain ⟨member, isKey⟩ := (Queue.find?_eq_some distinctNarrow).1 found
  exact (Queue.find?_eq_some distinct).2 ⟨narrower.nested.part.subset member, isKey⟩

theorem get_eq_some (narrower : Narrower narrow wide) (distinct : (wide.items.map Item.key).Nodup)
    (read : (narrow.get now key).2 = some value) : (wide.get now key).2 = some value := by
  unfold Queue.get at read ⊢
  cases found : narrow.find? key with
  | none =>
    rw [found] at read
    cases read
  | some item =>
    rw [found] at read
    rw [narrower.find?_eq_some distinct found]
    dsimp only at read ⊢
    split at read
    · cases read
    · next live =>
      rw [if_neg live]
      exact read

/-- A read finds its key in both queues, in none of them, or in the other one alone. There it goes to the end,
which leaves the common items in their order. -/
theorem get (narrower : Narrower narrow wide) (distinct : (wide.items.map Item.key).Nodup) :
    Narrower (narrow.get now key).1 (wide.get now key).1 := by
  have others := narrower.nested.filter (·.key ≠ key)
  unfold Queue.get
  cases found : narrow.find? key with
  | some item =>
    rw [narrower.find?_eq_some distinct found]
    dsimp only
    split
    · exact narrower.of_nested others
    · exact narrower.of_nested (others.concat item)
  | none =>
    have absent : narrow.without key = narrow.items := without_of_none found
    unfold Queue.without at absent
    rw [absent] at others
    cases foundWide : wide.find? key with
    | none => exact narrower
    | some item =>
      dsimp only
      split
      · exact narrower.of_nested others
      · refine narrower.of_nested ⟨others.part.trans (List.sublist_append_left _ _), ?_⟩
        have moved := (perm_cons_without distinct foundWide).length_eq
        have gap := narrower.nested.gap
        rw [moved, List.length_cons] at gap
        rwa [List.length_append, List.length_singleton]

variable [Weighed ν]

/-- What is stored goes to the end of both queues, and then each drops what exceeds its capacity. -/
theorem setWithTtl (narrower : Narrower narrow wide) {ttl : Duration} (total : narrow.total = wordSum)
    (totalWide : wide.total = wordSum)
    (light : wide.config.maxMemory < UInt64.size →
      ((wide.without key).map Item.sizeBytes).sum + weight value ≤ wide.config.maxMemory) :
    Narrower (narrow.setWithTtl now key value ttl) (wide.setWithTtl now key value ttl) := by
  let stored : Item ν := ⟨key, value, weight value, expiry now ttl⟩
  have filled : Nested narrow.config.capacity wide.config.capacity (narrow.without key ++ [stored])
      (wide.without key ++ [stored]) :=
    (narrower.nested.filter (·.key ≠ key)).concat stored
  have partLight (part : List (Item ν)) (within : part.Sublist (wide.without key ++ [stored])) :
      wordSum (part.map Item.sizeBytes) ≤ wide.config.maxMemory := by
    refine wordSum_le fun small => (weight_le_of_subperm within.subperm).trans ?_
    rw [List.map_append, List.sum_append, List.map_singleton, List.sum_singleton]
    exact light small
  unfold Queue.setWithTtl
  refine narrower.of_nested ?_
  rw [total, totalWide, trim_of_light narrower.positive, trim_of_light narrower.positive_wide]
  · exact filled.drop
  · exact fun part suffix => partLight part suffix.sublist
  · intro part suffix
    rw [narrower.maxMemory]
    exact partLight part (suffix.sublist.trans filled.part)

end Narrower

end Queue

/-! ### Caches under two capacities -/

section Caches

variable [Weighed ν]

/-- Does the memory bound hold right after a value has been put in, before anything goes? -/
def Bounded.HasRoom (cache : Bounded ν) : Operation ν → Prop
  | .set key value | .setWithTtl key value _ =>
    cache.memory - ((cache.entries.get? key).map Entry.sizeBytes).getD 0 + weight value ≤
      cache.config.maxMemory
  | _ => True

/-- Is the memory bound never exceeded in the course of some operations? -/
def Bounded.KeepsRoom (cache : Bounded ν) : List (Nat × Operation ν) → Prop
  | [] => True
  | (now, operation) :: rest =>
    cache.HasRoom operation ∧ (cache.perform now operation).1.KeepsRoom rest

instance (cache : Bounded ν) (operation : Operation ν) : Decidable (cache.HasRoom operation) :=
  match operation with
  | .set .. | .setWithTtl .. => inferInstanceAs (Decidable (_ ≤ _))
  | .get _ | .peek _ | .contains _ | .delete _ | .clear | .cleanup => inferInstanceAs (Decidable True)

/-- Whether the memory bound is never exceeded can be decided by carrying out the operations. -/
def Bounded.decidableKeepsRoom (cache : Bounded ν) :
    (history : List (Nat × Operation ν)) → Decidable (cache.KeepsRoom history)
  | [] => inferInstanceAs (Decidable True)
  | (now, operation) :: rest =>
    have : Decidable ((cache.perform now operation).1.KeepsRoom rest) :=
      Bounded.decidableKeepsRoom _ rest
    inferInstanceAs (Decidable (_ ∧ _))

instance (cache : Bounded ν) (history : List (Nat × Operation ν)) :
    Decidable (cache.KeepsRoom history) :=
  cache.decidableKeepsRoom history

/-! ### Every run -/

/-- Do the items of a queue weigh no more than its memory bound, if that fits in 64 bits? -/
def Queue.IsLight (queue : Queue ν) : Prop :=
  queue.config.maxMemory < UInt64.size → (queue.items.map Item.sizeBytes).sum ≤ queue.config.maxMemory

/-- An operation for which a cache has room brings no more into its queue than the memory bound allows. -/
theorem Represents.peakWeight_le {cache : Bounded ν} {queue : Queue ν} (represents : Represents cache queue)
    (isLight : queue.IsLight) {operation : Operation ν} (room : cache.HasRoom operation)
    (small : queue.config.maxMemory < UInt64.size) : queue.peakWeight operation ≤ queue.config.maxMemory := by
  have exact := RepresentsExactly.of_represents represents (Nat.lt_of_le_of_lt (isLight small) small)
  cases operation with
  | set key value | setWithTtl key value ttl =>
    have peak : cache.peakWeight 0 (.set key value) = queue.peakWeight (.set key value) :=
      exact.peakWeight_eq 0 (.set key value)
    rw [← represents.config]
    exact peak ▸ room
  | get | peek | contains | delete | clear | cleanup => exact isLight small

/-- The caches represent queues of which the first is narrower and the other light, and the first cache has had no
more hits. -/
structure Bounded.Narrower (narrow wide : Bounded ν) : Prop where
  queues : ∃ first second, Represents narrow first ∧ Represents wide second ∧ first.Narrower second ∧
    second.IsLight
  hits : narrow.hits ≤ wide.hits

namespace Bounded.Narrower

variable {narrow wide : Bounded ν} {key : String} {now : Nat} {value : ν}

omit [Weighed ν] in
theorem get_eq_some (narrower : Narrower narrow wide) (read : (narrow.get now key).2 = some value) :
    (wide.get now key).2 = some value := by
  obtain ⟨first, second, represents, representsWide, queues, -⟩ := narrower.queues
  rw [(represents.get now key).2] at read
  rw [(representsWide.get now key).2]
  exact queues.get_eq_some representsWide.order.distinct read

omit [Weighed ν] in
theorem finds_le (narrower : Narrower narrow wide) (now : Nat) (operation : Operation ν) :
    narrow.finds now operation ≤ wide.finds now operation := by
  cases operation with
  | get key =>
    show (narrow.get now key).2.isSome.toNat ≤ (wide.get now key).2.isSome.toNat
    cases read : (narrow.get now key).2 with
    | none => exact Nat.zero_le _
    | some value => rw [narrower.get_eq_some read]
  | set | setWithTtl | peek | contains | delete | clear | cleanup => exact Nat.le_refl _

/-- An operation for which the other cache has room. -/
theorem perform (narrower : Narrower narrow wide) {operation : Operation ν}
    (room : wide.HasRoom operation) :
    Narrower (narrow.perform now operation).1 (wide.perform now operation).1 := by
  obtain ⟨first, second, represents, representsWide, queues, isLight⟩ := narrower.queues
  have peak := representsWide.peakWeight_le isLight room
  refine ⟨⟨_, _, (represents.perform now operation).1, (representsWide.perform now operation).1, ?_, ?_⟩, ?_⟩
  · cases operation with
    | set key value =>
      have stored : (first.setWithTtl now key value first.config.ttl).Narrower
          (second.setWithTtl now key value first.config.ttl) :=
        queues.setWithTtl represents.total representsWide.total peak
      unfold Queue.perform
      rwa [← queues.ttl]
    | setWithTtl key value ttl => exact queues.setWithTtl represents.total representsWide.total peak
    | get key => exact queues.get representsWide.order.distinct
    | peek | contains => exact queues
    | delete | cleanup => exact queues.of_nested (queues.nested.filter _)
    | clear =>
      refine queues.of_nested ⟨List.Sublist.refl _, ?_⟩
      simpa using queues.capacity
  · unfold Queue.IsLight
    rw [Queue.config_perform]
    exact fun small => (Queue.weight_perform_le representsWide.order.distinct now operation).trans (peak small)
  · rw [hits_perform, hits_perform]
    exact Nat.add_le_add narrower.hits (narrower.finds_le now operation)

theorem run (narrower : Narrower narrow wide) {history : List (Nat × Operation ν)}
    (room : wide.KeepsRoom history) : Narrower (narrow.run history) (wide.run history) := by
  induction history generalizing narrow wide with
  | nil => exact narrower
  | cons step rest inductionHypothesis =>
    exact inductionHypothesis (narrower.perform room.1) room.2

omit [Weighed ν] in
/-- Whatever the first cache holds, the other holds too. -/
theorem resident (narrower : Narrower narrow wide) {entry : Entry ν}
    (holds : narrow.entries.get? key = some entry) :
    ∃ other, wide.entries.get? key = some other ∧ other.value = entry.value ∧
      other.expiresAt = entry.expiresAt := by
  obtain ⟨first, second, represents, representsWide, queues, -⟩ := narrower.queues
  have found : first.find? key = some (entry.item key) := by
    rw [← represents.get?_eq key, holds, Option.map_some]
  have foundWide := queues.find?_eq_some representsWide.order.distinct found
  rw [← representsWide.get?_eq key, Option.map_eq_some_iff] at foundWide
  obtain ⟨other, bound, same⟩ := foundWide
  exact ⟨other, bound, congrArg Item.value same, congrArg Item.expiresAt same⟩

end Bounded.Narrower

/-- Two caches are configured alike except for their capacities, a capacity of zero standing for the default
one, and are asked the same at the same readings of the clock. If the memory bound is never exceeded in the one
with the larger capacity, not even before something is pushed out of it, then whatever the other one holds, it
holds as well, with the same value and expiry. It answers every read that the other answers, with the same
value, and it has had at least as many hits. -/
theorem capacity_monotone (config : GroupConfig) (less more : Nat)
    (history : List (Nat × Operation ν))
    (ordered : (effective { config with capacity := less }).capacity ≤
      (effective { config with capacity := more }).capacity)
    (room : (Bounded.create { config with capacity := more } : Bounded ν).KeepsRoom history) :
    let narrow := (Bounded.create { config with capacity := less } : Bounded ν).run history
    let wide := (Bounded.create { config with capacity := more } : Bounded ν).run history
    (∀ key entry, narrow.entries.get? key = some entry →
      ∃ other, wide.entries.get? key = some other ∧ other.value = entry.value ∧
        other.expiresAt = entry.expiresAt) ∧
    (∀ now key value, (narrow.get now key).2 = some value → (wide.get now key).2 = some value) ∧
    narrow.hits ≤ wide.hits := by
  intro narrow wide
  have created : Bounded.Narrower (Bounded.create { config with capacity := less } : Bounded ν)
      (Bounded.create { config with capacity := more }) :=
    ⟨⟨_, _, .create _, .create _, .create ordered rfl rfl, fun _ => Nat.zero_le _⟩, Nat.le_refl _⟩
  have narrower : Bounded.Narrower narrow wide := created.run room
  exact ⟨fun _ _ => narrower.resident, fun _ _ _ => narrower.get_eq_some, narrower.hits⟩

/-- A cache of one entry and one of two are given three values, and the first value is read before the third
comes. The one of two entries has a hit and the other has none, and both hold the third value. -/
theorem capacity_monotone_reread :
    let config : GroupConfig := ⟨0, 2, .ofSeconds 60⟩
    let history : List (Nat × Operation String) :=
      [(0, .set "a" "x"), (1, .set "b" "y"), (2, .get "a"), (3, .delete "b"), (4, .set "c" "z")]
    let narrow := (Bounded.create { config with capacity := 1 }).run history
    let wide := (Bounded.create { config with capacity := 2 }).run history
    (Bounded.create { config with capacity := 2 }).KeepsRoom history ∧
      (narrow.get 5 "c").2 = some "z" ∧ (wide.get 5 "c").2 = some "z" ∧
      narrow.hits = 0 ∧ narrow.hits ≤ wide.hits := by
  intro config history narrow wide
  have room : (Bounded.create { config with capacity := 2 }).KeepsRoom history := by decide
  have read : (narrow.get 5 "c").2 = some "z" := by decide
  obtain ⟨-, reads, hits⟩ := capacity_monotone config 1 2 history (by decide) room
  exact ⟨room, read, reads 5 "c" "z" read, by decide, hits⟩

end Caches

end Community.Cache
