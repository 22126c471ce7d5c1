/-
This file proves for how long a value is served. What has been stored for a lifetime is read until that lifetime
has passed, counted in whole milliseconds, or until the end of cache time, and not from then on. It does not
matter what else is asked of the cache, as long as nothing else is stored under the key, the key is not deleted,
the cache is not cleared and, in the cache with bounds, nothing is pushed out. Two facts about one operation
carry this: what the key leads to afterwards it led to before, and an entry that is live stays. The part of a
lifetime that is less than a millisecond does not count, so what is stored for less than one is never read.
-/

import Community.Proofs.Cache.Reaping
import Community.Proofs.Cache.Turnover

namespace Community.Cache

/-- The reading of the clock from which on a value is no longer served that was stored at a reading: the whole
milliseconds of its lifetime later, or the end of cache time. -/
def servedUntil (stored : Nat) (ttl : Duration) : Nat :=
  min (stored + ttl.millis) endOfTime

/-- Does the operation decide what the key holds: is something stored there, or the key deleted, or the cache
cleared? -/
def Operation.settles {ν : Type} (key : String) : Operation ν → Bool
  | set other _ => other = key
  | setWithTtl other _ _ => other = key
  | delete other => other = key
  | clear => true
  | get _ => false
  | peek _ => false
  | contains _ => false
  | cleanup => false

/-! ### Ends of lifetimes -/

section Ends

variable {stored now : Nat} {ttl longer : Duration}

/-- A lifetime whose milliseconds fit in 64 bits counts in full. -/
theorem expiry_eq_servedUntil (lasting : ttl.isZero = false) (fits : ttl.millis < UInt64.size) :
    expiry stored ttl = some (servedUntil stored ttl) := by
  unfold expiry lifetimeMillis servedUntil
  rw [lasting, Nat.mod_eq_of_lt fits]
  rfl

theorem Entry.isExpired_create {ν : Type} (value : ν) (sizeBytes : Nat) (lasting : ttl.isZero = false)
    (fits : ttl.millis < UInt64.size) :
    (Entry.create value sizeBytes stored ttl).isExpired now = decide (servedUntil stored ttl ≤ now) := by
  unfold Entry.create Entry.isExpired
  rw [expiry_eq_servedUntil lasting fits]

theorem servedUntil_mono (shorter : ttl.nanos ≤ longer.nanos) :
    servedUntil stored ttl ≤ servedUntil stored longer := by
  have counted : ttl.millis ≤ longer.millis := Nat.div_le_div_right shorter
  unfold servedUntil
  omega

/-- Nothing is served when its lifetime has passed to the nanosecond. -/
theorem servedUntil_le_of_passed
    (passed : stored * Duration.nanosPerMilli + ttl.nanos ≤ now * Duration.nanosPerMilli) :
    servedUntil stored ttl ≤ now := by
  unfold servedUntil Duration.millis
  unfold Duration.nanosPerMilli at *
  omega

/-- A lifetime of whole milliseconds ends to the nanosecond, or at the end of cache time. -/
theorem lt_servedUntil_iff (whole : Duration.nanosPerMilli ∣ ttl.nanos) :
    now < servedUntil stored ttl ↔
      now * Duration.nanosPerMilli <
        min (stored * Duration.nanosPerMilli + ttl.nanos) (endOfTime * Duration.nanosPerMilli) := by
  unfold servedUntil Duration.millis
  unfold Duration.nanosPerMilli at *
  omega

theorem lt_servedUntil_self (lasts : Duration.nanosPerMilli ≤ ttl.nanos) (before : stored < endOfTime) :
    stored < servedUntil stored ttl := by
  have counted : 0 < ttl.millis := Nat.div_pos lasts (by decide)
  unfold servedUntil
  omega

end Ends

/-! ### The cache without bounds -/

namespace Expiring

variable {ν : Type} {cache : Expiring ν} {now : Nat} {key : String} {entry : Entry ν}

/-- What a key leads to after an operation that leaves it alone it led to before. -/
theorem get?_of_get?_perform {operation : Operation ν} (leaves : operation.settles key = false)
    (found : (cache.perform now operation).1.entries.get? key = some entry) :
    cache.entries.get? key = some entry := by
  have other {stored : String} {value : ν} {ttl : Duration} (differs : stored ≠ key)
      (bound : (cache.setWithTtl now stored value ttl).entries.get? key = some entry) :
      cache.entries.get? key = some entry :=
    (get?_setWithTtl bound).resolve_left fun both => differs both.1.symm
  cases operation with
  | set stored value => exact other (of_decide_eq_false leaves) found
  | setWithTtl stored value ttl => exact other (of_decide_eq_false leaves) found
  | get read => exact cache.includes_get now read key entry found
  | delete deleted => exact Table.includes_erase _ _ key entry found
  | clear => cases leaves
  | cleanup => exact Table.includes_filter _ _ key entry found

/-- An operation that leaves a key alone leaves its entry there if it is live. -/
theorem get?_perform_of_live {operation : Operation ν} (leaves : operation.settles key = false)
    (found : cache.entries.get? key = some entry) (live : entry.isExpired now = false) :
    (cache.perform now operation).1.entries.get? key = some entry := by
  cases operation with
  | set stored value => exact (Table.get?_insert ..).trans ((if_neg (of_decide_eq_false leaves)).trans found)
  | setWithTtl stored value ttl =>
    exact (Table.get?_insert ..).trans ((if_neg (of_decide_eq_false leaves)).trans found)
  | get read => exact get?_get_of_live found live
  | delete deleted => exact (Table.get?_erase ..).trans ((if_neg (of_decide_eq_false leaves)).trans found)
  | clear => cases leaves
  | cleanup => exact get?_cleanup_of_live found live

theorem get?_of_get?_run {later : History ν} (leaves : ∀ step ∈ later, step.2.settles key = false)
    (found : (cache.run later).entries.get? key = some entry) :
    cache.entries.get? key = some entry := by
  induction later generalizing cache with
  | nil => exact found
  | cons step rest inductionHypothesis =>
    rw [List.forall_mem_cons] at leaves
    exact get?_of_get?_perform leaves.1 (inductionHypothesis leaves.2 found)

/-- An entry that is live at a moment is there as long as nothing is asked later than then. -/
theorem get?_run_of_live {later : History ν} (leaves : ∀ step ∈ later, step.2.settles key = false)
    (past : ∀ step ∈ later, step.1 ≤ now) (found : cache.entries.get? key = some entry)
    (live : entry.isExpired now = false) : (cache.run later).entries.get? key = some entry := by
  induction later generalizing cache with
  | nil => exact found
  | cons step rest inductionHypothesis =>
    rw [List.forall_mem_cons] at leaves past
    exact inductionHypothesis leaves.2 past.2
      (get?_perform_of_live leaves.1 found (Entry.isLive_of_later past.1 live))

end Expiring

/-! ### The cache with bounds -/

namespace Bounded

variable {ν : Type} {cache : Bounded ν} {now time : Nat} {key : String} {entry : Entry ν}

/-- Evictions are counted, or the entry of a key stays that is live at a moment. -/
structure Spares (moment : Nat) (key : String) (cache later : Bounded ν) : Prop where
  counts : cache.evictions ≤ later.evictions
  stays : later.evictions = cache.evictions → ∀ entry, cache.entries.get? key = some entry →
    entry.isExpired moment = false → later.entries.get? key = some entry

namespace Spares

variable {middle later : Bounded ν}

theorem of_same (counted : later.evictions = cache.evictions)
    (same : later.entries.get? key = cache.entries.get? key) : cache.Spares now key later where
  counts := Nat.le_of_eq counted.symm
  stays _ _ found _ := same.trans found

theorem trans (spares : Spares now key cache middle) (further : Spares now key middle later) :
    Spares now key cache later where
  counts := Nat.le_trans spares.counts further.counts
  stays none entry found live := by
    have first : middle.evictions = cache.evictions :=
      Nat.le_antisymm (none ▸ further.counts) spares.counts
    exact further.stays (none.trans first.symm) entry (spares.stays first entry found live) live

/-- What is live later is live before. -/
theorem past (spares : Spares time key cache later) (passes : time ≤ now) : Spares now key cache later where
  counts := spares.counts
  stays none entry found live := spares.stays none entry found (Entry.isLive_of_later passes live)

end Spares

theorem spares_evict (cache : Bounded ν) (now : Nat) (key : String) : Spares now key cache cache.evict := by
  unfold evict
  split
  · split
    · exact ⟨Nat.le_succ _, fun none => absurd none (Nat.succ_ne_self _)⟩
    · exact .of_same rfl rfl
  · exact .of_same rfl rfl

theorem spares_shrink (cache : Bounded ν) (now : Nat) (key kept : String) (count : Nat) :
    Spares now key cache (cache.shrink kept count) :=
  shrink_induction (motive := Spares now key cache) kept count (.of_same rfl rfl)
    fun later _ _ _ spares => spares.trans (later.spares_evict now key)

theorem get?_foldl_remove (cache : Bounded ν) (keys : List String) :
    (keys.foldl remove cache).entries.get? key = if key ∈ keys then none else cache.entries.get? key := by
  induction keys generalizing cache with
  | nil => rfl
  | cons removed rest inductionHypothesis =>
    rw [List.foldl_cons, inductionHypothesis, get?_remove]
    by_cases same : removed = key
    · simp [same]
    · simp [same, Ne.symm same]

/-- A cleanup removes nothing that is live. -/
theorem get?_cleanup_of_live (found : cache.entries.get? key = some entry)
    (live : entry.isExpired now = false) : (cache.cleanup now).1.entries.get? key = some entry := by
  refine (cache.get?_foldl_remove _).trans ((if_neg fun member => ?_).trans found)
  obtain ⟨other, expired⟩ := Table.mem_keys.1 member
  rw [Table.get?_filter, Option.filter_eq_some_iff, found] at expired
  cases expired.1
  cases live.symm.trans expired.2

variable [Weighed ν]

/-- What a key leads to after an operation that leaves it alone it led to before. -/
theorem get?_of_get?_perform {operation : Operation ν} (leaves : operation.settles key = false)
    (found : (cache.perform now operation).1.entries.get? key = some entry) :
    cache.entries.get? key = some entry := by
  have other {stored : String} {value : ν} {ttl : Duration} (differs : stored ≠ key)
      (bound : (cache.setWithTtl now stored value ttl).entries.get? key = some entry) :
      cache.entries.get? key = some entry :=
    (get?_setWithTtl bound).resolve_left fun both => differs both.1.symm
  cases operation with
  | set stored value => exact other (of_decide_eq_false leaves) found
  | setWithTtl stored value ttl => exact other (of_decide_eq_false leaves) found
  | get read => exact cache.includes_get now read key entry found
  | peek read => exact found
  | contains read => exact found
  | delete deleted => exact cache.includes_remove deleted key entry found
  | clear => cases leaves
  | cleanup => exact cache.includes_cleanup now key entry found

/-- Storing under another key spares the entry of a key. -/
theorem spares_setWithTtl {other : String} (differs : other ≠ key) (value : ν) (ttl : Duration) :
    Spares now key cache (cache.setWithTtl time other value ttl) := by
  unfold setWithTtl
  refine Spares.trans ?_ (spares_shrink _ now key other _)
  exact .of_same rfl ((Table.get?_insert ..).trans (if_neg differs))

/-- Every operation that leaves a key alone spares its entry. -/
theorem spares_perform {operation : Operation ν} (leaves : operation.settles key = false) :
    Spares now key cache (cache.perform now operation).1 := by
  cases operation with
  | set stored value => exact spares_setWithTtl (of_decide_eq_false leaves) value _
  | setWithTtl stored value ttl => exact spares_setWithTtl (of_decide_eq_false leaves) value ttl
  | get read =>
    exact ⟨Nat.le_of_eq (cache.evictions_get now read).symm, fun _ _ found live => get?_get_of_live found live⟩
  | peek read => exact .of_same rfl rfl
  | contains read => exact .of_same rfl rfl
  | delete deleted =>
    exact .of_same (cache.evictions_remove deleted)
      (get?_remove.trans (if_neg (of_decide_eq_false leaves)))
  | clear => cases leaves
  | cleanup =>
    exact ⟨Nat.le_of_eq (cache.evictions_cleanup now).symm, fun _ _ found live =>
      get?_cleanup_of_live found live⟩

theorem get?_of_get?_run {later : List (Nat × Operation ν)}
    (leaves : ∀ step ∈ later, step.2.settles key = false)
    (found : (cache.run later).entries.get? key = some entry) :
    cache.entries.get? key = some entry := by
  induction later generalizing cache with
  | nil => exact found
  | cons step rest inductionHypothesis =>
    rw [List.forall_mem_cons] at leaves
    exact get?_of_get?_perform leaves.1 (inductionHypothesis leaves.2 found)

theorem spares_run {later : List (Nat × Operation ν)} (leaves : ∀ step ∈ later, step.2.settles key = false)
    (past : ∀ step ∈ later, step.1 ≤ now) : Spares now key cache (cache.run later) := by
  induction later generalizing cache with
  | nil => exact .of_same rfl rfl
  | cons step rest inductionHypothesis =>
    rw [List.forall_mem_cons] at leaves past
    exact ((spares_perform leaves.1).past past.1).trans (inductionHypothesis leaves.2 past.2)

end Bounded

/-! ### Lifetimes -/

section Lifetimes

variable {ν : Type} {stored now : Nat} {key : String} {value : ν} {ttl : Duration}

/-- What is stored without bounds is read until its lifetime has passed, and not from then on. -/
theorem Expiring.get_run_setWithTtl {cache : Expiring ν} {later : Expiring.History ν}
    (lasting : ttl.isZero = false) (fits : ttl.millis < UInt64.size)
    (leaves : ∀ step ∈ later, step.2.settles key = false) :
    let read := (((cache.setWithTtl stored key value ttl).run later).get now key).2
    ((∀ step ∈ later, step.1 ≤ now) → now < servedUntil stored ttl → read = some value) ∧
      (servedUntil stored ttl ≤ now → read = none) := by
  intro read
  have expired : (Entry.create value 0 stored ttl).isExpired now = decide (servedUntil stored ttl ≤ now) :=
    Entry.isExpired_create value 0 lasting fits
  have created : (cache.setWithTtl stored key value ttl).entries.get? key =
      some (.create value 0 stored ttl) := Table.get?_insert_self _ _ _
  refine ⟨fun past before => ?_, fun passed => Option.eq_none_iff_forall_ne_some.2 fun other got => ?_⟩
  · have live := expired.trans (decide_eq_false (Nat.not_le.2 before))
    exact get_of_live (get?_run_of_live leaves past created live) live
  · obtain ⟨entry, found, live, -⟩ := get_eq_some got
    cases created.symm.trans (get?_of_get?_run leaves found)
    cases live.symm.trans (expired.trans (decide_eq_true passed))

/-- What is stored with bounds is read until its lifetime has passed unless something is pushed out, and not from
then on. -/
theorem Bounded.get_run_setWithTtl [Weighed ν] {cache : Bounded ν} {later : List (Nat × Operation ν)}
    (lasting : ttl.isZero = false) (fits : ttl.millis < UInt64.size)
    (leaves : ∀ step ∈ later, step.2.settles key = false) :
    let filled := cache.setWithTtl stored key value ttl
    let read := ((filled.run later).get now key).2
    ((filled.run later).evictions = filled.evictions → (∀ step ∈ later, step.1 ≤ now) →
        now < servedUntil stored ttl → read = some value) ∧
      (servedUntil stored ttl ≤ now → read = none) := by
  intro filled read
  have expired : (Entry.create value (weight value) stored ttl).isExpired now =
      decide (servedUntil stored ttl ≤ now) := Entry.isExpired_create value _ lasting fits
  have created : filled.entries.get? key = some (.create value (weight value) stored ttl) :=
    cache.get?_setWithTtl_self stored key value ttl
  refine ⟨fun none past before => ?_, fun passed => Option.eq_none_iff_forall_ne_some.2 fun other got => ?_⟩
  · have live := expired.trans (decide_eq_false (Nat.not_le.2 before))
    exact get_of_live ((spares_run leaves past).stays none _ created live) live
  · obtain ⟨entry, found, live, -⟩ := get_eq_some got
    cases created.symm.trans (get?_of_get?_run leaves found)
    cases live.symm.trans (expired.trans (decide_eq_true passed))

/-- Whatever has been asked of a cache, let a value be stored under a key for a lifetime that is not zero and
whose milliseconds fit in 64 bits, and let further operations leave the key alone, at any readings of the
clock. In both caches the value is read at every reading that is not before these and at which its lifetime, in
whole milliseconds, has not passed nor cache time ended, if in the cache with bounds nothing has been pushed out;
and nothing is read from then on. So nothing is read when the lifetime has passed to the nanosecond, a lifetime of
whole milliseconds ends to the nanosecond, a longer lifetime never ends earlier than a shorter one, and what is
stored for a millisecond or more can be read at once. -/
theorem served_for_lifetime [Weighed ν] (stored : Nat) (key : String) (value : ν) (ttl : Duration)
    (lasting : ttl.isZero = false) (fits : ttl.millis < UInt64.size) :
    (∀ (cache : Expiring ν) later now, (∀ step ∈ later, step.2.settles key = false) →
      let read := (((cache.setWithTtl stored key value ttl).run later).get now key).2
      ((∀ step ∈ later, step.1 ≤ now) → now < servedUntil stored ttl → read = some value) ∧
        (servedUntil stored ttl ≤ now → read = none)) ∧
    (∀ (cache : Bounded ν) later now, (∀ step ∈ later, step.2.settles key = false) →
      let filled := cache.setWithTtl stored key value ttl
      let read := ((filled.run later).get now key).2
      ((filled.run later).evictions = filled.evictions → (∀ step ∈ later, step.1 ≤ now) →
          now < servedUntil stored ttl → read = some value) ∧
        (servedUntil stored ttl ≤ now → read = none)) ∧
    (∀ now, stored * Duration.nanosPerMilli + ttl.nanos ≤ now * Duration.nanosPerMilli →
      servedUntil stored ttl ≤ now) ∧
    (Duration.nanosPerMilli ∣ ttl.nanos → ∀ now, now < servedUntil stored ttl ↔
      now * Duration.nanosPerMilli <
        min (stored * Duration.nanosPerMilli + ttl.nanos) (endOfTime * Duration.nanosPerMilli)) ∧
    (∀ longer : Duration, ttl.nanos ≤ longer.nanos → servedUntil stored ttl ≤ servedUntil stored longer) ∧
    (Duration.nanosPerMilli ≤ ttl.nanos → stored < endOfTime → stored < servedUntil stored ttl) :=
  ⟨fun _ _ _ leaves => Expiring.get_run_setWithTtl lasting fits leaves,
    fun _ _ _ leaves => Bounded.get_run_setWithTtl lasting fits leaves,
    fun _ => servedUntil_le_of_passed, fun whole _ => lt_servedUntil_iff whole,
    fun _ => servedUntil_mono, lt_servedUntil_self⟩

/-- A value that is stored for three milliseconds is read after two and not after three, although other keys
come and go and expired entries are removed. -/
theorem served_for_lifetime_of_millis :
    let ttl : Duration := .ofMillis 3
    let later : List (Nat × Operation String) :=
      [(10, .set "other" "x"), (11, .get "k"), (12, .cleanup), (12, .delete "other")]
    let expiring : Expiring String := (Expiring.create .zero).setWithTtl 10 "k" "v" ttl
    let bounded : Bounded String := (Bounded.create ⟨0, 0, .zero⟩).setWithTtl 10 "k" "v" ttl
    (expiring.get 12 "k").2 = some "v" ∧ (expiring.get 13 "k").2 = none ∧
      ((bounded.run later).get 12 "k").2 = some "v" ∧ ((bounded.run later).get 13 "k").2 = none := by
  intro ttl later expiring bounded
  obtain ⟨unbounded, limited, -⟩ := served_for_lifetime 10 "k" "v" ttl (by decide) (by decide)
  have leaves : ∀ step ∈ later, step.2.settles "k" = false := by decide
  have ahead : 12 < servedUntil 10 ttl := by decide
  have passed : servedUntil 10 ttl ≤ 13 := by decide
  exact ⟨(unbounded _ [] 12 nofun).1 nofun ahead, (unbounded _ [] 13 nofun).2 passed,
    (limited _ later 12 leaves).1 (by decide) (by decide) ahead, (limited _ later 13 leaves).2 passed⟩

/-- A lifetime of a nanosecond has not passed when its value is stored, nor has one of a millisecond and a half
one millisecond later; but neither value is read, in either cache. -/
theorem served_for_lifetime_below_millis :
    let instant : Duration := ⟨1⟩
    let short : Duration := ⟨1500000⟩
    let expiring : Expiring String := .create .zero
    let bounded : Bounded String := .create ⟨0, 0, .zero⟩
    let ends (stored : Nat) (ttl : Duration) : Nat :=
      min (stored * Duration.nanosPerMilli + ttl.nanos) (endOfTime * Duration.nanosPerMilli)
    instant.isZero = false ∧ short.isZero = false ∧
      10 * Duration.nanosPerMilli < ends 10 instant ∧ 11 * Duration.nanosPerMilli < ends 10 short ∧
      ((expiring.setWithTtl 10 "k" "v" instant).get 10 "k").2 = none ∧
      ((bounded.setWithTtl 10 "k" "v" instant).get 10 "k").2 = none ∧
      ((expiring.setWithTtl 10 "k" "v" short).get 11 "k").2 = none ∧
      ((bounded.setWithTtl 10 "k" "v" short).get 11 "k").2 = none := by
  decide

end Lifetimes

end Community.Cache
