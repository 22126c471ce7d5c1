/-
This file proves that the bounded cache counts exactly while it can. As long as what is resident weighs less than
2^64 bytes at every moment, a sum in 64 bits is the sum, and the cache behaves like the queue that adds up the sizes
of its items as they are. A value tells its own weight, so nothing else keeps the sum from being full. When it is, it
starts anew from zero: the cache then takes what it holds for light, and keeps more than its memory bound allows.
-/

import Community.Proofs.Cache.Queue

namespace Community.Cache

variable {ν : Type}

/-! ### What is resident -/

section Measures

variable [Weighed ν]

/-- The most that is resident at any moment of an operation. What is stored comes in before anything else goes. -/
def Bounded.peakWeight (cache : Bounded ν) (_ : Nat) : Operation ν → Nat
  | .set key value | .setWithTtl key value _ =>
    cache.memory - ((cache.entries.get? key).map Entry.sizeBytes).getD 0 + weight value
  | _ => cache.memory

/-- The most that is in the queue at any moment of an operation. -/
def Queue.peakWeight (queue : Queue ν) : Operation ν → Nat
  | .set key value | .setWithTtl key value _ =>
    ((queue.without key).map Item.sizeBytes).sum + weight value
  | _ => (queue.items.map Item.sizeBytes).sum

end Measures

theorem wordSum_of_lt {sizes : List Nat} (fits : sizes.sum < UInt64.size) : wordSum sizes = sizes.sum :=
  word_of_lt fits

/-- A sum in 64 bits is within a bound that the sum is within, or that no number of 64 bits exceeds. -/
theorem wordSum_le {sizes : List Nat} {bound : Nat} (light : bound < UInt64.size → sizes.sum ≤ bound) :
    wordSum sizes ≤ bound := by
  rcases Nat.lt_or_ge bound UInt64.size with small | large
  · rw [wordSum_of_lt (Nat.lt_of_le_of_lt (light small) small)]
    exact light small
  · exact (Nat.le_of_lt (word_lt _)).trans large

/-! ### Queues that add up in 64 bits -/

namespace Queue

variable {queue : Queue ν} {now : Nat} {key : String} {value : ν}

theorem trim_wordSum (config : GroupConfig) (items : List (Item ν))
    (fits : (items.map Item.sizeBytes).sum < UInt64.size) :
    trim config wordSum items = trim config List.sum items := by
  induction items with
  | nil => rfl
  | cons first rest inductionHypothesis =>
    cases rest with
    | nil => rfl
    | cons second rest =>
      have lighter : ((second :: rest).map Item.sizeBytes).sum < UInt64.size :=
        Nat.lt_of_le_of_lt (Nat.le_add_left _ _) fits
      unfold trim exceeds
      rw [wordSum_of_lt fits, inductionHypothesis lighter]

theorem weight_trim_le (config : GroupConfig) (total : List Nat → Nat) (items : List (Item ν)) :
    ((trim config total items).1.map Item.sizeBytes).sum ≤ (items.map Item.sizeBytes).sum := by
  fun_induction trim config total items with
  | case1 first second rest _ inductionHypothesis => exact inductionHypothesis.trans (Nat.le_add_left _ _)
  | case2 | case3 => exact Nat.le_refl _

/-- A part of the items weighs no more than all of them. -/
theorem weight_le_of_subperm {part items : List (Item ν)} (within : part.Subperm items) :
    (part.map Item.sizeBytes).sum ≤ (items.map Item.sizeBytes).sum := by
  obtain ⟨ordered, same, sublist⟩ := within
  rw [← (same.map Item.sizeBytes).sum_eq]
  exact (sublist.map Item.sizeBytes).sum_le_sum fun _ _ => Nat.zero_le _

/-- A read removes an item or moves one. -/
theorem subperm_get (distinct : (queue.items.map Item.key).Nodup) :
    (queue.get now key).1.items.Subperm queue.items := by
  unfold get
  split
  · exact List.Subperm.refl _
  · next item found =>
    split
    · exact List.filter_sublist.subperm
    · exact ((perm_cons_without distinct found).trans (List.perm_append_singleton item _).symm).symm.subperm

theorem get_inWords (queue : Queue ν) (now : Nat) (key : String) :
    queue.inWords.get now key = ((queue.get now key).1.inWords, (queue.get now key).2) := by
  have sameItem : queue.inWords.find? key = queue.find? key := rfl
  unfold get
  rw [sameItem]
  cases queue.find? key with
  | none => rfl
  | some item =>
    dsimp only
    split <;> rfl

variable [Weighed ν]

theorem weight_setWithTtl_le (queue : Queue ν) (now : Nat) (key : String) (value : ν) (ttl : Duration) :
    ((queue.setWithTtl now key value ttl).items.map Item.sizeBytes).sum ≤
      ((queue.without key).map Item.sizeBytes).sum + weight value := by
  refine (weight_trim_le _ _ _).trans ?_
  rw [List.map_append, List.sum_append, List.map_singleton, List.sum_singleton]

theorem weight_perform_le (distinct : (queue.items.map Item.key).Nodup) (now : Nat) (operation : Operation ν) :
    ((queue.perform now operation).1.items.map Item.sizeBytes).sum ≤ queue.peakWeight operation := by
  cases operation with
  | set key value => exact queue.weight_setWithTtl_le now key value _
  | setWithTtl key value ttl => exact queue.weight_setWithTtl_le now key value ttl
  | get key => exact weight_le_of_subperm (subperm_get distinct)
  | peek | contains => exact Nat.le_refl _
  | delete | cleanup => exact weight_le_of_subperm List.filter_sublist.subperm
  | clear => exact Nat.zero_le _

/-- Sums that fit lead both queues to the same items. -/
theorem setWithTtl_inWords (exactly : queue.total = List.sum) {ttl : Duration}
    (fits : ((queue.without key).map Item.sizeBytes).sum + weight value < UInt64.size) :
    queue.inWords.setWithTtl now key value ttl = (queue.setWithTtl now key value ttl).inWords := by
  let stored : Item ν := ⟨key, value, weight value, expiry now ttl⟩
  have filled : ((queue.without key ++ [stored]).map Item.sizeBytes).sum < UInt64.size := by
    rwa [List.map_append, List.sum_append, List.map_singleton, List.sum_singleton]
  have same := trim_wordSum queue.config _ filled
  unfold setWithTtl inWords
  dsimp only
  rw [exactly]
  exact congrArg (fun left => ({ queue with
    items := left.1, evictions := queue.evictions + left.2, total := wordSum } : Queue ν)) same

/-- As long as its sums fit, the queue that adds up in 64 bits does the same as the other. -/
theorem perform_inWords (exactly : queue.total = List.sum) {operation : Operation ν}
    (fits : queue.peakWeight operation < UInt64.size) :
    queue.inWords.perform now operation =
      ((queue.perform now operation).1.inWords, (queue.perform now operation).2) := by
  cases operation with
  | set key value =>
    exact congrArg (fun stored => (stored, Answer.done)) (setWithTtl_inWords exactly fits)
  | setWithTtl key value ttl =>
    exact congrArg (fun stored => (stored, Answer.done)) (setWithTtl_inWords exactly fits)
  | get key =>
    exact congrArg (fun read : Queue ν × Option ν => (read.1, Answer.value read.2)) (queue.get_inWords now key)
  | peek | contains | delete | clear | cleanup => rfl

theorem total_perform (queue : Queue ν) (now : Nat) (operation : Operation ν) :
    (queue.perform now operation).1.total = queue.total := by
  cases operation with
  | get key =>
    show (queue.get now key).1.total = queue.total
    unfold get
    split
    · rfl
    · split <;> rfl
  | set | setWithTtl | peek | contains | delete | clear | cleanup => rfl

end Queue

/-! ### Caches that count exactly -/

/-- The cache represents a queue that adds up sizes as they are. -/
structure RepresentsExactly (cache : Bounded ν) (queue : Queue ν) : Prop where
  words : Represents cache queue.inWords
  total : queue.total = List.sum
  memory : cache.memory = (queue.items.map Item.sizeBytes).sum

namespace RepresentsExactly

variable {cache : Bounded ν} {queue : Queue ν}

theorem create (config : GroupConfig) :
    RepresentsExactly (Bounded.create config : Bounded ν) (.create config) where
  words := .create config
  total := rfl
  memory := rfl

/-- A cache whose items weigh less than 2^64 bytes has counted exactly. -/
theorem of_represents (represents : Represents cache queue)
    (fits : (queue.items.map Item.sizeBytes).sum < UInt64.size) :
    RepresentsExactly cache { queue with total := List.sum } where
  words := by
    unfold Queue.inWords
    rw [← represents.total]
    exact represents
  total := rfl
  memory := represents.memory_eq.trans (wordSum_of_lt fits)

theorem weight_lt (represents : RepresentsExactly cache queue) :
    (queue.items.map Item.sizeBytes).sum < UInt64.size := by
  rw [← represents.memory, represents.words.memory_eq]
  exact word_lt _

/-- What is left after something has gone is counted exactly. -/
theorem of_subperm (represents : RepresentsExactly cache queue) {later : Bounded ν} {items : List (Item ν)}
    {evictions : Nat} (words : Represents later ⟨queue.config, items, evictions, wordSum⟩)
    (part : items.Subperm queue.items) :
    RepresentsExactly later ⟨queue.config, items, evictions, queue.total⟩ where
  words := words
  total := represents.total
  memory := words.memory_eq.trans
    (wordSum_of_lt (Nat.lt_of_le_of_lt (Queue.weight_le_of_subperm part) represents.weight_lt))

theorem remove (represents : RepresentsExactly cache queue) (key : String) :
    RepresentsExactly (cache.remove key) { queue with items := queue.without key } :=
  represents.of_subperm (represents.words.remove key) List.filter_sublist.subperm

theorem evict (represents : RepresentsExactly cache queue) {first : Item ν} {rest : List (Item ν)}
    (items : queue.items = first :: rest) :
    RepresentsExactly cache.evict { queue with items := rest, evictions := queue.evictions + 1 } :=
  represents.of_subperm (represents.words.evict items) (items ▸ (List.sublist_cons_self first rest).subperm)

/-- An entry weighs no more than all of them. -/
theorem sizeBytes_le (represents : RepresentsExactly cache queue) {key : String} {entry : Entry ν}
    (found : cache.entries.get? key = some entry) : entry.sizeBytes ≤ cache.memory := by
  have leads := represents.words.get?_eq key
  rw [found] at leads
  have all := Queue.perm_cons_without represents.words.order.distinct leads.symm
  have weighs : (queue.items.map Item.sizeBytes).sum = entry.sizeBytes + _ := (all.map Item.sizeBytes).sum_eq
  rw [represents.memory, weighs]
  exact Nat.le_add_right _ _

theorem replaced_le (represents : RepresentsExactly cache queue) (key : String) :
    ((cache.entries.get? key).map Entry.sizeBytes).getD 0 ≤ cache.memory := by
  cases found : cache.entries.get? key with
  | none => exact Nat.zero_le _
  | some entry => exact represents.sizeBytes_le found

/-- The total weight of the items of the other keys. -/
theorem memory_without (represents : RepresentsExactly cache queue) (key : String) :
    cache.memory - ((cache.entries.get? key).map Entry.sizeBytes).getD 0 =
      ((queue.without key).map Item.sizeBytes).sum := by
  have leads := represents.words.get?_eq key
  rw [represents.memory]
  cases found : cache.entries.get? key with
  | none =>
    rw [found] at leads
    have absent : queue.without key = queue.items := Queue.without_of_none leads.symm
    rw [absent]
    rfl
  | some entry =>
    rw [found] at leads
    have all := Queue.perm_cons_without represents.words.order.distinct leads.symm
    have weighs : (queue.items.map Item.sizeBytes).sum =
        entry.sizeBytes + ((queue.without key).map Item.sizeBytes).sum := (all.map Item.sizeBytes).sum_eq
    rw [weighs]
    exact Nat.add_sub_cancel_left _ _

/-- What is stored goes to the end, in place of what its key held. -/
theorem fill (represents : RepresentsExactly cache queue) (key : String) (entry : Entry ν)
    (fits : cache.memory - ((cache.entries.get? key).map Entry.sizeBytes).getD 0 + entry.sizeBytes < UInt64.size) :
    RepresentsExactly
      { cache with
        entries := cache.entries.insert key entry
        recency := cache.recency.touch key
        memory := cache.memory - ((cache.entries.get? key).map Entry.sizeBytes).getD 0 + entry.sizeBytes }
      { queue with items := queue.without key ++ [entry.item key] } := by
  have words := represents.words.fill key entry
  rw [word_sub_add (represents.replaced_le key) fits] at words
  refine ⟨words, represents.total, ?_⟩
  rw [represents.memory_without key, List.map_append, List.sum_append, List.map_singleton, List.sum_singleton]
  rfl

variable [Weighed ν]

theorem peakWeight_eq (represents : RepresentsExactly cache queue) (now : Nat) (operation : Operation ν) :
    cache.peakWeight now operation = queue.peakWeight operation := by
  cases operation with
  | set key value | setWithTtl key value ttl =>
    exact congrArg (· + weight value) (represents.memory_without key)
  | get | peek | contains | delete | clear | cleanup => exact represents.memory

/-- An operation during which what is resident weighs less than what 64 bits can hold. -/
theorem perform (represents : RepresentsExactly cache queue) {now : Nat} {operation : Operation ν}
    (fits : cache.peakWeight now operation < UInt64.size) :
    RepresentsExactly (cache.perform now operation).1 (queue.perform now operation).1 ∧
      (cache.perform now operation).2 = (queue.perform now operation).2 := by
  rw [represents.peakWeight_eq] at fits
  obtain ⟨words, answer⟩ := represents.words.perform now operation
  rw [Queue.perform_inWords represents.total fits] at words answer
  refine ⟨⟨words, (queue.total_perform now operation).trans represents.total, ?_⟩, answer⟩
  have lighter := queue.weight_perform_le represents.words.order.distinct now operation
  exact words.memory_eq.trans (wordSum_of_lt (Nat.lt_of_le_of_lt lighter fits))

theorem observe (represents : RepresentsExactly cache queue) {history : List (Nat × Operation ν)}
    (fits : ∀ weight ∈ cache.tally Bounded.peakWeight history, weight < UInt64.size) :
    cache.observe history = queue.observe history := by
  induction history generalizing cache queue with
  | nil => rfl
  | cons step rest inductionHypothesis =>
    rw [Bounded.tally, List.forall_mem_cons] at fits
    obtain ⟨further, answer⟩ := represents.perform fits.1
    have memory : (cache.perform step.1 step.2).1.memory = (queue.perform step.1 step.2).1.memory := by
      rw [further.memory, Queue.memory, further.total]
    have size : (cache.perform step.1 step.2).1.size = (queue.perform step.1 step.2).1.items.length :=
      further.words.size_eq
    have evictions : (cache.perform step.1 step.2).1.evictions = (queue.perform step.1 step.2).1.evictions :=
      further.words.evictions
    rw [Bounded.observe, Queue.observe]
    rw [answer, size, memory, evictions, inductionHypothesis further fits.2]

theorem run (represents : RepresentsExactly cache queue) {history : List (Nat × Operation ν)}
    (fits : ∀ weight ∈ cache.tally Bounded.peakWeight history, weight < UInt64.size) :
    RepresentsExactly (cache.run history) (queue.run history) := by
  induction history generalizing cache queue with
  | nil => exact represents
  | cons step rest inductionHypothesis =>
    rw [Bounded.tally, List.forall_mem_cons] at fits
    exact inductionHypothesis (represents.perform fits.1).1 fits.2

end RepresentsExactly

/-! ### Every run -/

/-- Whatever is asked of a cache, one thing after the other and each at its own reading of the clock, what is
seen of it is what is seen of a queue under the same limits that adds up the sizes of its items in 64 bits. As long as
what is resident weighs less than 2^64 bytes at every moment, it is also what is seen of the queue that adds them up
as they are. -/
theorem bounded_refines_queue [Weighed ν] (config : GroupConfig) (history : List (Nat × Operation ν)) :
    let start : Bounded ν := .create config
    start.observe history = (Queue.create config).inWords.observe history ∧
    ((∀ weight ∈ start.tally Bounded.peakWeight history, weight < UInt64.size) →
      start.observe history = (Queue.create config).observe history) :=
  ⟨(Represents.create config).observe history, (RepresentsExactly.create config).observe⟩

/-- A value is replaced, another one expires and is read, and the third to come in pushes out the first. -/
theorem bounded_refines_queue_replaced :
    let history : List (Nat × Operation String) :=
      [(0, .set "a" "one"), (1, .setWithTtl "b" "two" (.ofMillis 1)), (1, .set "a" "three"), (2, .get "b"),
        (3, .set "b" "four"), (4, .set "c" "five")]
    let start : Bounded String := .create ⟨2, 10, .ofSeconds 60⟩
    (∀ weight ∈ start.tally Bounded.peakWeight history, weight < UInt64.size) ∧
      (start.observe history).map Observation.memory = [3, 6, 8, 5, 9, 8] ∧
      (start.observe history).getLast? = some ⟨.done, 2, 8, 1⟩ ∧
      start.observe history = (Queue.create ⟨2, 10, .ofSeconds 60⟩).observe history := by
  intro history start
  have light : ∀ weight ∈ start.tally Bounded.peakWeight history, weight < UInt64.size := by decide
  exact ⟨light, by decide, by decide, (bounded_refines_queue ⟨2, 10, .ofSeconds 60⟩ history).2 light⟩

/-- A value of which nothing is known but its weight. -/
structure Weight where
  bytes : Nat
  deriving DecidableEq

instance : Weighed Weight := ⟨Weight.bytes⟩

/-- Two values of 2^63 bytes are stored under a bound of 2^63 bytes. The queue drops the first one. The cache keeps
both and takes them to weigh nothing. And a value that is stored for a nanosecond is not read at the same reading of
the clock, although its lifetime has not passed. -/
theorem bounded_refines_queue_heavy :
    let config : GroupConfig := ⟨10, 2 ^ 63, .ofSeconds 10⟩
    let history : List (Nat × Operation Weight) := [(0, .set "a" ⟨2 ^ 63⟩), (1, .set "b" ⟨2 ^ 63⟩)]
    let short : List (Nat × Operation String) := [(0, .setWithTtl "k" "v" ⟨1⟩), (0, .get "k")]
    (Queue.create config).observe history = [⟨.done, 1, 2 ^ 63, 0⟩, ⟨.done, 1, 2 ^ 63, 1⟩] ∧
      (Bounded.create config).observe history = [⟨.done, 1, 2 ^ 63, 0⟩, ⟨.done, 2, 0, 0⟩] ∧
      (Bounded.create ⟨10, 1000, .ofSeconds 10⟩).observe short = [⟨.done, 1, 1, 0⟩, ⟨.value none, 0, 0, 0⟩] := by
  decide

end Community.Cache
