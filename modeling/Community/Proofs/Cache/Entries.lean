/-
This file says what the operations of the caches do to an entry. An entry comes into a cache when something is
stored under its key, and in no other way: whatever else happens, what a key holds afterwards it held before.
Storing may push out other entries and never the one that is stored. What a read returns is the value of a live
entry, and a live entry is always read.
-/

import Community.Cache.Service

namespace Community

/-! ### Tables that lose bindings -/

namespace Table

variable {κ ν : Type} [DecidableEq κ] {table middle smaller : Table κ ν}

/-- Has a table every binding of another one? -/
def Includes (table smaller : Table κ ν) : Prop :=
  ∀ key value, smaller.get? key = some value → table.get? key = some value

theorem Includes.refl (table : Table κ ν) : table.Includes table :=
  fun _ _ => id

theorem Includes.trans (includes : table.Includes middle) (further : middle.Includes smaller) :
    table.Includes smaller :=
  fun key value bound => includes key value (further key value bound)

theorem includes_filter (table : Table κ ν) (keep : κ → ν → Bool) :
    table.Includes (table.filter keep) := by
  intro key value bound
  rw [get?_filter, Option.filter_eq_some_iff] at bound
  exact bound.1

theorem includes_erase (table : Table κ ν) (key : κ) : table.Includes (table.erase key) :=
  includes_filter table _

end Table

namespace Cache

variable {ν : Type} {now : Nat} {key other : String} {value : ν} {entry : Entry ν}

/-- What is live later is live before. -/
theorem Entry.isLive_of_later {moment : Nat} (passes : now ≤ moment)
    (live : entry.isExpired moment = false) : entry.isExpired now = false := by
  unfold isExpired at *
  split
  · next ends =>
    rw [ends] at live
    exact decide_eq_false fun ended => of_decide_eq_false live (Nat.le_trans ended passes)
  · rfl

/-! ### The cache with bounds -/

namespace Bounded

variable {cache : Bounded ν}

theorem get?_remove :
    (cache.remove key).entries.get? other =
      if key = other then none else cache.entries.get? other := by
  unfold remove
  split
  · exact Table.get?_erase ..
  · next unknown =>
    split
    · next same => rw [← same, unknown]
    · rfl

theorem includes_remove (cache : Bounded ν) (key : String) :
    cache.entries.Includes (cache.remove key).entries := by
  intro other entry bound
  rw [get?_remove] at bound
  split at bound
  · cases bound
  · exact bound

theorem includes_get (cache : Bounded ν) (now : Nat) (key : String) :
    cache.entries.Includes (cache.get now key).1.entries := by
  unfold get
  split
  · exact .refl _
  · split
    · exact cache.includes_remove key
    · exact .refl _

/-- A value that is read is that of a live entry. -/
theorem get_eq_some (read : (cache.get now key).2 = some value) :
    ∃ entry, cache.entries.get? key = some entry ∧ entry.isExpired now = false ∧
      entry.value = value := by
  unfold get at read
  split at read
  · cases read
  · next entry found =>
    split at read
    · cases read
    · next live => exact ⟨entry, found, Bool.not_eq_true _ ▸ live, Option.some.inj read⟩

theorem includes_evict (cache : Bounded ν) : cache.entries.Includes cache.evict.entries := by
  unfold evict
  split
  · split
    · exact Table.includes_erase _ _
    · exact .refl _
  · exact .refl _

/-- What is true of a cache, and stays true as entries of other keys than the protected one are pushed out, is
true of what is left. -/
theorem shrink_induction {motive : Bounded ν → Prop} (kept : String) (count : Nat) (start : motive cache)
    (step : ∀ (cache : Bounded ν) (oldest : String), cache.recency.oldest? = some oldest → oldest ≠ kept →
      motive cache → motive cache.evict) :
    motive (cache.shrink kept count) := by
  induction count generalizing cache with
  | zero => exact start
  | succ count inductionHypothesis =>
    unfold shrink
    split
    · split
      · next oldest victim =>
        split
        · exact start
        · next differs => exact inductionHypothesis (step cache oldest victim differs start)
      · exact start
    · exact start

theorem includes_shrink (cache : Bounded ν) (kept : String) (count : Nat) :
    cache.entries.Includes (cache.shrink kept count).entries :=
  shrink_induction (motive := fun later => cache.entries.Includes later.entries) kept count (.refl _)
    fun later _ _ _ includes => includes.trans later.includes_evict

theorem includes_foldl_remove (cache : Bounded ν) (keys : List String) :
    cache.entries.Includes (keys.foldl remove cache).entries :=
  List.foldlRecOn (motive := fun later => cache.entries.Includes later.entries) keys remove (.refl _)
    fun later includes key _ => includes.trans (later.includes_remove key)

theorem includes_cleanup (cache : Bounded ν) (now : Nat) :
    cache.entries.Includes (cache.cleanup now).1.entries :=
  cache.includes_foldl_remove _

theorem contains_iff :
    cache.contains now key ↔ ∃ entry, cache.entries.get? key = some entry ∧ entry.isExpired now = false := by
  unfold contains peek
  cases cache.entries.get? key with
  | none => simp
  | some entry => cases expired : entry.isExpired now <;> simp [Option.filter, expired]

/-- Whatever an entry is after something has been stored, it is what was stored or was there before. -/
theorem get?_setWithTtl [Weighed ν] {ttl : Duration}
    (bound : (cache.setWithTtl now key value ttl).entries.get? other = some entry) :
    other = key ∧ entry = .create value (weight value) now ttl ∨
      cache.entries.get? other = some entry := by
  have filled := includes_shrink _ _ _ other entry bound
  dsimp only at filled
  rw [Table.get?_insert] at filled
  split at filled
  · next same => exact Or.inl ⟨same.symm, (Option.some.inj filled).symm⟩
  · exact Or.inr filled

/-- A live entry is read. -/
theorem get_of_live (found : cache.entries.get? key = some entry) (live : entry.isExpired now = false) :
    (cache.get now key).2 = some entry.value := by
  simp only [get, found, live, Bool.false_eq_true, if_false]

/-- A read removes nothing that is live. -/
theorem get?_get_of_live (found : cache.entries.get? other = some entry) (live : entry.isExpired now = false) :
    (cache.get now key).1.entries.get? other = some entry := by
  unfold get
  split
  · exact found
  · next read foundRead =>
    split
    · next expired =>
      refine get?_remove.trans ((if_neg ?_).trans found)
      rintro rfl
      cases found.symm.trans foundRead
      cases live.symm.trans expired
    · exact found

theorem get?_evict {oldest : String} (victim : cache.recency.oldest? = some oldest) (differs : oldest ≠ key) :
    cache.evict.entries.get? key = cache.entries.get? key := by
  have evicted : cache.recency.evictOldest.2 = some oldest := by
    rw [← victim, Recency.evictOldest, Recency.oldest?, Table.values, List.head?_map]
    cases cache.recency.byStamp.bindings.head? <;> rfl
  unfold evict
  split
  · next pushed =>
    rw [pushed] at evicted
    cases evicted
    split
    · exact (Table.get?_erase ..).trans (if_neg differs)
    · rfl
  · rfl

/-- The protected key keeps its entry. -/
theorem get?_shrink (cache : Bounded ν) (kept : String) (count : Nat) :
    (cache.shrink kept count).entries.get? kept = cache.entries.get? kept :=
  shrink_induction (motive := fun later => later.entries.get? kept = cache.entries.get? kept) kept count rfl
    fun _ _ victim differs same => (get?_evict victim differs).trans same

/-- Whatever has to go for it, what is stored is there afterwards. -/
theorem get?_setWithTtl_self [Weighed ν] (cache : Bounded ν) (now : Nat) (key : String) (value : ν)
    (ttl : Duration) :
    (cache.setWithTtl now key value ttl).entries.get? key =
      some (.create value (weight value) now ttl) :=
  (get?_shrink _ _ _).trans (Table.get?_insert_self _ _ _)

end Bounded

/-! ### The cache without bounds -/

namespace Expiring

variable {cache : Expiring ν}

theorem includes_get (cache : Expiring ν) (now : Nat) (key : String) :
    cache.entries.Includes (cache.get now key).1.entries := by
  unfold get
  split
  · exact .refl _
  · split
    · exact Table.includes_erase _ _
    · exact .refl _

theorem get_eq_some (read : (cache.get now key).2 = some value) :
    ∃ entry, cache.entries.get? key = some entry ∧ entry.isExpired now = false ∧
      entry.value = value := by
  unfold get at read
  split at read
  · cases read
  · next entry found =>
    split at read
    · cases read
    · next live => exact ⟨entry, found, Bool.not_eq_true _ ▸ live, Option.some.inj read⟩

theorem get?_setWithTtl {ttl : Duration}
    (bound : (cache.setWithTtl now key value ttl).entries.get? other = some entry) :
    other = key ∧ entry = .create value 0 now ttl ∨ cache.entries.get? other = some entry := by
  unfold setWithTtl at bound
  rw [Table.get?_insert] at bound
  split at bound
  · next same => exact Or.inl ⟨same.symm, (Option.some.inj bound).symm⟩
  · exact Or.inr bound

/-- A live entry is read. -/
theorem get_of_live (found : cache.entries.get? key = some entry) (live : entry.isExpired now = false) :
    (cache.get now key).2 = some entry.value := by
  simp only [get, found, live, Bool.false_eq_true, if_false]

/-- A read removes nothing that is live. -/
theorem get?_get_of_live (found : cache.entries.get? other = some entry) (live : entry.isExpired now = false) :
    (cache.get now key).1.entries.get? other = some entry := by
  unfold get
  split
  · exact found
  · next read foundRead =>
    split
    · next expired =>
      refine (Table.get?_erase ..).trans ((if_neg ?_).trans found)
      rintro rfl
      cases found.symm.trans foundRead
      cases live.symm.trans expired
    · exact found

/-- A cleanup removes nothing that is live. -/
theorem get?_cleanup_of_live (found : cache.entries.get? key = some entry)
    (live : entry.isExpired now = false) : (cache.cleanup now).1.entries.get? key = some entry := by
  refine (Table.get?_filter ..).trans ?_
  rw [found, Option.filter_some, live]
  rfl

end Expiring

/-! ### The service -/

/-- What a key of a group holds. -/
def Service.resident? (service : Service) : Group → String → Option (Entry ByteArray)
  | .global, key => service.global.entries.get? key
  | .article, key => service.articles.entries.get? key
  | .user, key => service.users.entries.get? key
  | .list, key => service.lists.entries.get? key

namespace Service

variable {service middle later : Service} {group : Group} {bytes : ByteArray} {ttl : Duration}

/-- Does every key hold what it held before, if it holds something? -/
def Retains (service later : Service) : Prop :=
  ∀ group key entry, later.resident? group key = some entry → service.resident? group key = some entry

theorem Retains.trans (retains : service.Retains middle) (further : middle.Retains later) :
    service.Retains later :=
  fun group key entry holds => retains group key entry (further group key entry holds)

theorem retains_of_includes (global : service.global.entries.Includes later.global.entries)
    (articles : service.articles.entries.Includes later.articles.entries)
    (users : service.users.entries.Includes later.users.entries)
    (lists : service.lists.entries.Includes later.lists.entries) : service.Retains later
  | .global => global
  | .article => articles
  | .user => users
  | .list => lists

theorem retains_getBytes (service : Service) (now : Nat) (group : Group) (key : String) :
    service.Retains (service.getBytes now group key).1 := by
  cases group with
  | global => exact retains_of_includes (Expiring.includes_get _ _ _) (.refl _) (.refl _) (.refl _)
  | article => exact retains_of_includes (.refl _) (Bounded.includes_get _ _ _) (.refl _) (.refl _)
  | user => exact retains_of_includes (.refl _) (.refl _) (Bounded.includes_get _ _ _) (.refl _)
  | list => exact retains_of_includes (.refl _) (.refl _) (.refl _) (Bounded.includes_get _ _ _)

theorem getBytes_eq_some (read : (service.getBytes now group key).2 = some bytes) :
    ∃ entry, service.resident? group key = some entry ∧ entry.isExpired now = false ∧
      entry.value = bytes := by
  cases group with
  | global => exact Expiring.get_eq_some read
  | article | user | list => exact Bounded.get_eq_some read

/-- A live entry is read. -/
theorem getBytes_of_live {entry : Entry ByteArray} (holds : service.resident? group key = some entry)
    (live : entry.isExpired now = false) : (service.getBytes now group key).2 = some entry.value := by
  cases group with
  | global => exact Expiring.get_of_live holds live
  | article | user | list => exact Bounded.get_of_live holds live

/-- Reading bytes removes nothing that is live. -/
theorem resident?_getBytes_of_live {place : Group} {entry : Entry ByteArray}
    (holds : service.resident? place other = some entry) (live : entry.isExpired now = false) :
    (service.getBytes now group key).1.resident? place other = some entry := by
  cases group <;> cases place <;>
    first | exact holds | exact Expiring.get?_get_of_live holds live | exact Bounded.get?_get_of_live holds live

/-- A key that is deleted holds nothing, and the others hold what they held. -/
theorem resident?_deleteKey (service : Service) (group place : Group) (key other : String) :
    (service.deleteKey group key).1.resident? place other =
      if group = place ∧ key = other then none else service.resident? place other := by
  by_cases same : group = place
  · subst same
    simp only [true_and]
    cases group with
    | global => exact Table.get?_erase ..
    | article | user | list => exact Bounded.get?_remove
  · rw [if_neg fun both => same both.1]
    cases group <;> cases place <;> first | rfl | exact absurd rfl same

theorem retains_deleteKey (service : Service) (group : Group) (key : String) :
    service.Retains (service.deleteKey group key).1 := by
  intro place other entry holds
  rw [resident?_deleteKey] at holds
  split at holds
  · cases holds
  · exact holds

/-- What a key holds after bytes were stored is these bytes, under their key and with their expiry, or what it
held before. -/
theorem resident?_putBytes {place : Group} {entry : Entry ByteArray}
    (holds : (service.putBytes now group key bytes ttl).resident? place other = some entry) :
    place = group ∧ other = key ∧ entry.value = bytes ∧ entry.expiresAt = expiry now ttl ∨
      service.resident? place other = some entry := by
  have bounded {cache : Bounded ByteArray}
      (bound : (cache.setWithTtl now key bytes ttl).entries.get? other = some entry) :
      other = key ∧ entry.value = bytes ∧ entry.expiresAt = expiry now ttl ∨
        cache.entries.get? other = some entry :=
    (Bounded.get?_setWithTtl bound).imp_left fun ⟨same, created⟩ => ⟨same, by rw [created]; exact ⟨rfl, rfl⟩⟩
  have expiring {cache : Expiring ByteArray}
      (bound : (cache.setWithTtl now key bytes ttl).entries.get? other = some entry) :
      other = key ∧ entry.value = bytes ∧ entry.expiresAt = expiry now ttl ∨
        cache.entries.get? other = some entry :=
    (Expiring.get?_setWithTtl bound).imp_left fun ⟨same, created⟩ => ⟨same, by rw [created]; exact ⟨rfl, rfl⟩⟩
  cases group <;> cases place <;>
    first | exact Or.inr holds | exact (bounded holds).imp_left fun written => ⟨rfl, written⟩ |
      exact (expiring holds).imp_left fun written => ⟨rfl, written⟩

/-- Bytes that are stored are there afterwards. -/
theorem exists_resident?_putBytes (service : Service) (now : Nat) (group : Group) (key : String)
    (bytes : ByteArray) (ttl : Duration) :
    ∃ entry, (service.putBytes now group key bytes ttl).resident? group key = some entry ∧
      entry.value = bytes ∧ entry.expiresAt = expiry now ttl := by
  cases group with
  | global => exact ⟨_, Table.get?_insert_self _ _ _, rfl, rfl⟩
  | article | user | list => exact ⟨_, Bounded.get?_setWithTtl_self _ _ _ _ _, rfl, rfl⟩

/-- In the cache without bounds nothing goes for what is stored under another key. -/
theorem resident?_putBytes_global (elsewhere : (group, key) ≠ (.global, other)) :
    (service.putBytes now group key bytes ttl).resident? .global other = service.resident? .global other := by
  cases group with
  | global =>
    refine (Table.get?_insert ..).trans (if_neg ?_)
    rintro rfl
    exact elsewhere rfl
  | article | user | list => rfl

/-! ### Values in slots -/

variable {α : Type} {slot : Slot α} {content : α}

theorem retains_lookSlot (service : Service) (now : Nat) (slot : Slot α) :
    service.Retains (service.lookSlot now slot).1 := by
  have read := service.retains_getBytes now slot.group slot.key
  unfold lookSlot
  split
  · next after got =>
    rw [got] at read
    exact read
  · next after bytes got =>
    rw [got] at read
    split
    · exact read
    · exact read.trans (after.retains_deleteKey _ _)

/-- A look at a slot removes nothing that is live, but for bytes in the slot that hold no value. -/
theorem resident?_lookSlot_of_live {place : Group} {entry : Entry ByteArray}
    (holds : service.resident? place other = some entry) (live : entry.isExpired now = false)
    (readable : slot.group = place → slot.key = other → slot.codec.decode? entry.value ≠ none) :
    (service.lookSlot now slot).1.resident? place other = some entry := by
  have read : (service.getBytes now slot.group slot.key).1.resident? place other = some entry :=
    resident?_getBytes_of_live holds live
  unfold lookSlot
  split
  · next got => rwa [got] at read
  · next after bytes got =>
    rw [got] at read
    split
    · exact read
    · next unreadable =>
      rw [resident?_deleteKey, if_neg]
      · exact read
      · rintro ⟨rfl, rfl⟩
        cases (getBytes_of_live holds live).symm.trans (congrArg Prod.snd got)
        exact readable rfl rfl unreadable

/-- A value that is found in a slot is read from the bytes of a live entry. -/
theorem lookSlot_eq_some (found : (service.lookSlot now slot).2 = some content) :
    ∃ entry, service.resident? slot.group slot.key = some entry ∧ entry.isExpired now = false ∧
      slot.codec.decode? entry.value = some content := by
  unfold lookSlot at found
  split at found
  · cases found
  · next after bytes got =>
    obtain ⟨entry, holds, live, rfl⟩ := getBytes_eq_some (congrArg Prod.snd got)
    split at found
    · next decoded =>
      exact ⟨entry, holds, live, decoded.trans found⟩
    · cases found

/-- The value of a live entry is found. -/
theorem lookSlot_of_live {entry : Entry ByteArray}
    (holds : service.resident? slot.group slot.key = some entry) (live : entry.isExpired now = false)
    (decoded : slot.codec.decode? entry.value = some content) :
    (service.lookSlot now slot).2 = some content := by
  have read := getBytes_of_live holds live
  unfold lookSlot
  split
  · next got =>
    rw [got] at read
    cases read
  · next got =>
    rw [got] at read
    cases read
    rw [decoded]

theorem fst_fillSlot_of_refused {after : Service}
    (refused : service.fillSlot now slot content = (after, false)) : after = service := by
  unfold fillSlot at refused
  split at refused
  · cases refused
  · exact (congrArg Prod.fst refused).symm

/-- What a key holds after a slot was filled is what was written, with the expiry of the slot, or what it held
before. -/
theorem resident?_fillSlot {place : Group} {entry : Entry ByteArray}
    (holds : (service.fillSlot now slot content).1.resident? place other = some entry) :
    place = slot.group ∧ other = slot.key ∧ slot.codec.encode? content = some entry.value ∧
      entry.expiresAt = expiry now slot.ttl ∨
      service.resident? place other = some entry := by
  unfold fillSlot at holds
  split at holds
  · next bytes encoded =>
    rcases resident?_putBytes holds with ⟨samePlace, sameKey, rfl, ends⟩ | held
    · exact Or.inl ⟨samePlace, sameKey, encoded, ends⟩
    · exact Or.inr held
  · exact Or.inr holds

/-- In the cache without bounds nothing goes for what another slot is filled with. -/
theorem resident?_fillSlot_global (elsewhere : (slot.group, slot.key) ≠ (.global, other)) :
    (service.fillSlot now slot content).1.resident? .global other = service.resident? .global other := by
  unfold fillSlot
  split
  · exact resident?_putBytes_global elsewhere
  · rfl

theorem resident?_indexSlot (service : Service) (article : UInt64) (place : Group) (key other : String) :
    (service.indexSlot article key).resident? place other = service.resident? place other := by
  cases place <;> rfl

/-- Noting an article in the index is no change to any entry. -/
theorem resident?_fill (service : Service) (now : Nat) (subject : Subject) (content : subject.Content)
    (place : Group) (key : String) :
    (service.fill now subject content).1.resident? place key =
      (service.fillSlot now (service.slot subject) content).1.resident? place key := by
  unfold fill
  split
  · next refused => rw [refused]
  · next written =>
    rw [written]
    cases subject with
    | article => exact resident?_indexSlot ..
    | categories | tags | user | list => rfl

/-! ### Removing -/

/-- All that is done with a subject that is no article is to fill its slot. -/
theorem fst_fill (service : Service) (now : Nat) (subject : Subject) (content : subject.Content)
    (other : ∀ article viewer, subject ≠ .article article viewer) :
    (service.fill now subject content).1 = (service.fillSlot now (service.slot subject) content).1 := by
  unfold fill
  split
  · next refused => rw [refused]
  · next written =>
    rw [written]
    cases subject with
    | article article viewer => exact absurd rfl (other article viewer)
    | categories | tags | user | list => rfl

theorem fst_deleteKeys (service : Service) (group : Group) (keys : List String) :
    (service.deleteKeys group keys).1 =
      keys.foldl (fun service key => (service.deleteKey group key).1) service :=
  (List.foldl_hom Prod.fst fun _ _ => rfl).symm

/-- Keys that are deleted hold nothing, and the others hold what they held. -/
theorem resident?_deleteKeys (service : Service) (group place : Group) (keys : List String)
    (other : String) :
    (service.deleteKeys group keys).1.resident? place other =
      if group = place ∧ other ∈ keys then none else service.resident? place other := by
  rw [fst_deleteKeys]
  induction keys generalizing service with
  | nil => simp
  | cons key rest inductionHypothesis =>
    rw [List.foldl_cons, inductionHypothesis, resident?_deleteKey]
    by_cases same : group = place
    · by_cases isKey : key = other
      · simp [same, isKey]
      · simp [same, isKey, Ne.symm isKey]
    · simp [same]

theorem retains_pruneIndex (service : Service) (now : Nat) :
    service.Retains (service.pruneIndex now).1
  | .global, _, _ => id
  | .article, _, _ => id
  | .user, _, _ => id
  | .list, _, _ => id

/-- A cleanup first removes entries and then prunes the index. -/
theorem exists_cleanup (service : Service) (now : Nat) :
    ∃ cleaned, service.Retains cleaned ∧ cleaned.detailIndex = service.detailIndex ∧
      (service.cleanup now).1 = (cleaned.pruneIndex now).1 := by
  refine ⟨_, retains_of_includes ?_ ?_ ?_ ?_, ?_, rfl⟩
  · exact Table.includes_filter _ _
  · exact Bounded.includes_cleanup _ _
  · exact Bounded.includes_cleanup _ _
  · exact Bounded.includes_cleanup _ _
  · rfl

theorem retains_cleanup (service : Service) (now : Nat) :
    service.Retains (service.cleanup now).1 := by
  obtain ⟨cleaned, retains, -, same⟩ := service.exists_cleanup now
  rw [same]
  exact retains.trans (cleaned.retains_pruneIndex now)

theorem resident?_clearAll (service : Service) (place : Group) (key : String) :
    service.clearAll.resident? place key = none := by
  cases place <;> rfl

/-! ### What stays as it is -/

/-- Is nothing different but what is in the caches? -/
structure Frames (service later : Service) : Prop where
  config : later.config = service.config
  detailIndex : later.detailIndex = service.detailIndex

theorem Frames.refl (service : Service) : service.Frames service :=
  ⟨rfl, rfl⟩

theorem Frames.trans (frames : service.Frames middle) (further : middle.Frames later) :
    service.Frames later :=
  ⟨further.config.trans frames.config, further.detailIndex.trans frames.detailIndex⟩

theorem frames_getBytes (service : Service) (now : Nat) (group : Group) (key : String) :
    service.Frames (service.getBytes now group key).1 := by
  cases group <;> exact ⟨rfl, rfl⟩

theorem frames_putBytes (service : Service) (now : Nat) (group : Group) (key : String) (bytes : ByteArray)
    (ttl : Duration) : service.Frames (service.putBytes now group key bytes ttl) := by
  cases group <;> exact ⟨rfl, rfl⟩

theorem frames_deleteKey (service : Service) (group : Group) (key : String) :
    service.Frames (service.deleteKey group key).1 := by
  cases group <;> exact ⟨rfl, rfl⟩

theorem frames_deleteKeys (service : Service) (group : Group) (keys : List String) :
    service.Frames (service.deleteKeys group keys).1 := by
  rw [fst_deleteKeys]
  induction keys generalizing service with
  | nil => exact .refl service
  | cons key rest inductionHypothesis =>
    exact (service.frames_deleteKey group key).trans (inductionHypothesis _)

theorem frames_lookSlot (service : Service) (now : Nat) (slot : Slot α) :
    service.Frames (service.lookSlot now slot).1 := by
  have read := service.frames_getBytes now slot.group slot.key
  unfold lookSlot
  split
  · next after got =>
    rw [got] at read
    exact read
  · next after bytes got =>
    rw [got] at read
    split
    · exact read
    · exact read.trans (after.frames_deleteKey _ _)

theorem frames_fillSlot (service : Service) (now : Nat) (slot : Slot α) (content : α) :
    service.Frames (service.fillSlot now slot content).1 := by
  unfold fillSlot
  split
  · exact service.frames_putBytes ..
  · exact .refl service

/-! ### The configuration -/

theorem config_fill (service : Service) (now : Nat) (subject : Subject) (content : subject.Content) :
    (service.fill now subject content).1.config = service.config := by
  have filled := (service.frames_fillSlot now (service.slot subject) content).config
  unfold fill
  split
  · next after refused =>
    rw [refused] at filled
    exact filled
  · next after written =>
    rw [written] at filled
    cases subject <;> exact filled

theorem config_settle (service : Service) (now : Nat) (subject : Subject)
    (loaded : Outcome subject.Content) : (service.settle now subject loaded).1.config = service.config := by
  cases loaded with
  | ok content => exact service.config_fill now subject content
  | error => rfl

theorem config_invalidateArticle (service : Service) (article : UInt64) :
    (service.invalidateArticle article).1.config = service.config := by
  unfold invalidateArticle
  split
  · rfl
  · exact (frames_deleteKeys ..).config

end Service

end Cache

end Community
