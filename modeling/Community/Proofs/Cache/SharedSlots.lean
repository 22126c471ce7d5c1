/-
This file proves that the categories, the tags and the number of users online are served as they were stored
last. They share the cache without bounds, where nothing is pushed out, so what is served of one of them is a
matter of its own history alone: it is the content that was stored last, unless it has been dropped since or its
lifetime is over. A read that finds it loads nothing, and any other read begins a load. What carries the proof is
that an entry which goes in passing, with a read or a cleanup, has expired by then, and as the clock does not go
back it would not have been served again.

Lifetimes count in milliseconds, of which an entry keeps the low 64 bits. A content with a lifetime that needs
more of them goes too early.
-/

import Community.Proofs.Cache.Lossless
import Community.Proofs.Cache.Reaping

namespace Community.Cache

open Community.Json

/-! ### What is remembered of a history -/

/-- What has a slot in the cache without bounds. -/
inductive Shared where
  | categories
  | tags
  | onlineCount

namespace Shared

def Content : Shared → Type
  | categories => List Category
  | tags => List Tag
  | onlineCount => Int64

/-- The slot under a configuration. -/
def slot (config : CacheConfig) : (item : Shared) → Slot item.Content
  | categories => ⟨.global, Key.categories, config.categoriesTtl, .categories⟩
  | tags => ⟨.global, Key.tags, config.tagsTtl, .tags⟩
  | onlineCount => ⟨.global, Key.onlineCount, config.onlineCountTtl, .count⟩

/-- The content that a load of a subject yields for the slot. -/
def yielded? (sources : Sources) : (item : Shared) → Subject → Option item.Content
  | categories, .categories => (sources .categories).toOption
  | tags, .tags => (sources .tags).toOption
  | _, _ => none

/-- The content that an event stores: what a load yields, whatever it was begun for, or a number that is set. -/
def stored? (system : System) : (item : Shared) → Event → Option item.Content
  | item, .settle number sources => (system.loads number).bind fun load => item.yielded? sources load.subject
  | onlineCount, .setOnlineCount count => some count
  | _, _ => none

/-- Does the event drop the content? -/
def isDroppedBy : Shared → Event → Bool
  | categories, .invalidate .categories => true
  | tags, .invalidate .tags => true
  | _, .invalidate .everything => true
  | _, _ => false

/-- The content that was stored last and when that was, or none if it has been dropped since. -/
abbrev Record (item : Shared) := Option (item.Content × Nat)

/-- What is remembered after an event. -/
def remember (item : Shared) (system : System) (record : item.Record) (event : Event) : item.Record :=
  match item.stored? system event with
  | some content => some (content, system.clock)
  | none => if item.isDroppedBy event then none else record

/-- What is remembered after some events. -/
def rememberAll (item : Shared) (system : System) (record : item.Record) : List Event → item.Record
  | [] => record
  | event :: rest => item.rememberAll (system.next event) (item.remember system record event) rest

/-- What is served by a record: its content, until the lifetime is over. A lifetime of zero is never over. -/
def Record.served {item : Shared} (record : item.Record) (ttl : Duration) (now : Nat) : Option item.Content :=
  (record.filter fun stored => ttl.isZero || now < stored.2 + ttl.millis).map Prod.fst

/-- What is found in the slot. -/
def answer (item : Shared) (system : System) : Option item.Content :=
  (system.service.lookSlot system.clock (item.slot system.service.config)).2

theorem isLossless_slot (config : CacheConfig) (item : Shared) : (item.slot config).codec.IsLossless := by
  cases item with
  | categories => exact Codec.isLossless_categories
  | tags => exact Codec.isLossless_tags
  | onlineCount => exact Codec.isLossless_json (fun _ => trivial) fun _ count _ => signed64?_document count

/-- No two of them share a key. -/
theorem eq_of_key (config : CacheConfig) (item other : Shared)
    (same : (item.slot config).key = (other.slot config).key) : item = other := by
  cases item <;> cases other <;>
    first | rfl | simp [slot, Key.categories, Key.tags, Key.onlineCount] at same

/-- A subject with one of these slots is the categories or the tags. -/
theorem eq_of_slot {service : Service} {subject : Subject} {item : Shared}
    (group : (service.slot subject).group = .global)
    (key : (service.slot subject).key = (item.slot service.config).key) :
    (item = .categories ∧ subject = .categories) ∨ (item = .tags ∧ subject = .tags) := by
  cases subject with
  | categories => exact Or.inl ⟨(eq_of_key service.config categories _ key).symm, rfl⟩
  | tags => exact Or.inr ⟨(eq_of_key service.config tags _ key).symm, rfl⟩
  | article | user | list => cases group

variable {item : Shared} {system after : System} {record : item.Record} {event : Event} {events : List Event}

/-! ### The cache and what is remembered -/

/-- What the item's slot holds. -/
def resident? (item : Shared) (system : System) : Option (Entry ByteArray) :=
  system.service.resident? .global (item.slot system.service.config).key

/-- Does the item's slot hold just the content that is remembered, as long as that lives? -/
structure Tracks (item : Shared) (system : System) (record : item.Record) : Prop where
  held : ∀ entry, item.resident? system = some entry → ∃ content time, record = some (content, time) ∧
    (item.slot system.service.config).codec.decode? entry.value = some content ∧
    entry.expiresAt = expiry time (item.slot system.service.config).ttl
  kept : ∀ content time, record = some (content, time) →
    (∀ moment ∈ expiry time (item.slot system.service.config).ttl, system.clock < moment) →
      ∃ entry, item.resident? system = some entry

namespace Tracks

theorem initial (item : Shared) (config : CacheConfig) (clock : Nat) :
    item.Tracks (.initial config clock) none where
  held _ holds := nomatch holds
  kept _ _ remembered := nomatch remembered

/-- An event that leaves live entries where they are, and puts nothing new into the slot. -/
theorem fade (tracks : item.Tracks system record) (config : after.service.config = system.service.config)
    (passes : system.clock ≤ after.clock)
    (retains : ∀ entry, item.resident? after = some entry → item.resident? system = some entry)
    (stays : ∀ entry, item.resident? system = some entry → entry.isExpired system.clock = false →
      item.resident? after = some entry) :
    item.Tracks after record where
  held entry holds := by
    rw [config]
    exact tracks.held entry (retains entry holds)
  kept content time remembered ahead := by
    rw [config] at ahead
    have aheadNow : ∀ moment ∈ expiry time _, system.clock < moment :=
      fun moment ends => Nat.lt_of_le_of_lt passes (ahead moment ends)
    obtain ⟨entry, holds⟩ := tracks.kept content time remembered aheadNow
    obtain ⟨content', time', same, -, ends⟩ := tracks.held entry holds
    cases remembered.symm.trans same
    exact ⟨entry, stays entry holds (Entry.isExpired_eq_false.2 (ends ▸ aheadNow))⟩

/-- An event that does not touch the slot. -/
theorem pass (tracks : item.Tracks system record) (config : after.service.config = system.service.config)
    (passes : system.clock ≤ after.clock) (same : item.resident? after = item.resident? system) :
    item.Tracks after record :=
  tracks.fade config passes (fun _ holds => same ▸ holds) fun _ holds _ => same.trans holds

/-- An event that fills the slot. -/
theorem store (system after : System) {content : item.Content}
    (produces : (item.slot system.service.config).codec.Produces content)
    (filled : after.service =
      (system.service.fillSlot system.clock (item.slot system.service.config) content).1) :
    item.Tracks after (some (content, system.clock)) := by
  have config : after.service.config = system.service.config := by
    rw [filled]
    exact (Service.frames_fillSlot ..).config
  obtain ⟨bytes, written, read⟩ := isLossless_slot _ item content produces
  have put : after.service = system.service.putBytes system.clock .global
      (item.slot system.service.config).key bytes (item.slot system.service.config).ttl := by
    rw [filled, Service.fillSlot, written]
    cases item <;> rfl
  obtain ⟨entry, holds, rfl, ends⟩ := system.service.exists_resident?_putBytes system.clock .global
    (item.slot system.service.config).key bytes (item.slot system.service.config).ttl
  have resident : item.resident? after = some entry := by
    rw [resident?, config, put, holds]
  refine ⟨fun other held => ⟨content, system.clock, rfl, ?_, ?_⟩, fun _ _ _ _ => ⟨entry, resident⟩⟩
  · cases resident.symm.trans held
    rw [config, read]
  · cases resident.symm.trans held
    rw [config, ends]

/-- An event that empties the slot. -/
theorem drop (gone : item.resident? after = none) : item.Tracks after none where
  held _ holds := nomatch gone.symm.trans holds
  kept _ _ remembered := nomatch remembered

/-- A look at any slot. -/
theorem look (tracks : item.Tracks system record) {α : Type} (slot : Slot α)
    (decodes : slot.group = .global → slot.key = (item.slot system.service.config).key →
      ∀ bytes, slot.codec.decode? bytes = none → (item.slot system.service.config).codec.decode? bytes = none)
    (config : after.service.config = system.service.config) (clock : after.clock = system.clock)
    (looked : after.service = (system.service.lookSlot system.clock slot).1) : item.Tracks after record := by
  refine tracks.fade config (Nat.le_of_eq clock.symm) (fun entry holds => ?_) fun entry holds live => ?_
  · rw [resident?, config, looked] at holds
    exact Service.retains_lookSlot _ _ _ _ _ _ holds
  · rw [resident?, config, looked]
    refine Service.resident?_lookSlot_of_live holds live fun sameGroup sameKey unreadable => ?_
    obtain ⟨content, -, -, read, -⟩ := tracks.held entry holds
    cases read.symm.trans (decodes sameGroup sameKey entry.value unreadable)

/-- What is found is the content that is remembered, until its expiry. -/
theorem answer_eq_some_iff (tracks : item.Tracks system record) {content : item.Content} :
    item.answer system = some content ↔ ∃ time, record = some (content, time) ∧
      ∀ moment ∈ expiry time (item.slot system.service.config).ttl, system.clock < moment := by
  have group : (item.slot system.service.config).group = .global := by cases item <;> rfl
  constructor
  · intro found
    obtain ⟨entry, holds, live, read⟩ := Service.lookSlot_eq_some found
    rw [group] at holds
    obtain ⟨content', time, remembered, alsoRead, ends⟩ := tracks.held entry holds
    cases read.symm.trans alsoRead
    exact ⟨time, remembered, ends ▸ Entry.isExpired_eq_false.1 live⟩
  · rintro ⟨time, remembered, ahead⟩
    obtain ⟨entry, holds⟩ := tracks.kept content time remembered ahead
    obtain ⟨content', time', same, read, ends⟩ := tracks.held entry holds
    cases remembered.symm.trans same
    refine Service.lookSlot_of_live ?_ (Entry.isExpired_eq_false.2 (ends ▸ ahead)) read
    rw [group]
    exact holds

end Tracks

/-! ### One event after the other -/

theorem toOption_eq_some_iff {α : Type} {outcome : Outcome α} {content : α} :
    outcome.toOption = some content ↔ outcome = .ok content := by
  cases outcome with
  | error error => exact ⟨nofun, nofun⟩
  | ok loaded => exact ⟨fun same => congrArg Except.ok (Option.some.inj same), fun same => by cases same; rfl⟩

/-- Content that is yielded is what could be read from bytes, and it is put into the slot. -/
theorem settle_of_yielded {sources : Sources} {subject : Subject} {content : item.Content}
    (yields : item.yielded? sources subject = some content) (readable : sources.AreReadable)
    (service : Service) (now : Nat) :
    (item.slot service.config).codec.Produces content ∧
      (service.settle now subject (sources subject)).1 =
        (service.fillSlot now (item.slot service.config) content).1 := by
  cases item with
  | categories =>
    cases subject with
    | categories =>
      have loaded := toOption_eq_some_iff.1 yields
      rw [loaded]
      exact ⟨readable _ _ loaded, service.fst_fill now .categories content nofun⟩
    | _ => cases yields
  | tags =>
    cases subject with
    | tags =>
      have loaded := toOption_eq_some_iff.1 yields
      rw [loaded]
      exact ⟨readable _ _ loaded, service.fst_fill now .tags content nofun⟩
    | _ => cases yields
  | onlineCount => cases subject <;> cases yields

/-- What a load yields for another slot, or for none, leaves this one as it is. -/
theorem resident?_settle_of_not_yielded {sources : Sources} {subject : Subject}
    (yields : item.yielded? sources subject = none) (service : Service) (now : Nat) :
    (service.settle now subject (sources subject)).1.resident? .global (item.slot service.config).key =
      service.resident? .global (item.slot service.config).key := by
  cases loaded : sources subject with
  | error error => rfl
  | ok content =>
    show (service.fill now subject content).1.resident? _ _ = _
    rw [Service.resident?_fill]
    refine Service.resident?_fillSlot_global fun same => ?_
    rcases eq_of_slot (congrArg Prod.fst same) (congrArg Prod.snd same) with ⟨rfl, rfl⟩ | ⟨rfl, rfl⟩
    · cases (toOption_eq_some_iff.2 loaded).symm.trans yields
    · cases (toOption_eq_some_iff.2 loaded).symm.trans yields

/-- What an event stores is put into the slot. -/
theorem tracks_stored {content : item.Content} (stores : item.stored? system event = some content)
    (readable : ∀ number sources, event = .settle number sources → sources.AreReadable) :
    item.Tracks (system.next event) (some (content, system.clock)) := by
  cases event with
  | settle number sources =>
    obtain ⟨load, flies, yields⟩ := Option.bind_eq_some_iff.1 stores
    obtain ⟨produces, settled⟩ :=
      settle_of_yielded yields (readable number sources rfl) system.service system.clock
    exact .store system _ produces ((System.service_settle flies).trans settled)
  | setOnlineCount count =>
    cases item with
    | onlineCount =>
      cases stores
      exact .store system _ ⟨_, Codec.decode?_json_render trivial (signed64?_document count)⟩ rfl
    | categories | tags => cases stores
  | _ => cases item <;> cases stores

theorem gone_of_isDroppedBy (drops : item.isDroppedBy event = true) :
    item.resident? (system.next event) = none := by
  rw [resident?, System.config_next]
  cases event with
  | invalidate target =>
    cases target with
    | everything => exact Service.resident?_clearAll _ _ _
    | categories =>
      cases item with
      | categories => exact (Service.resident?_deleteKey ..).trans (if_pos ⟨rfl, rfl⟩)
      | tags | onlineCount => cases drops
    | tags =>
      cases item with
      | tags => exact (Service.resident?_deleteKey ..).trans (if_pos ⟨rfl, rfl⟩)
      | categories | onlineCount => cases drops
    | article | user | list => cases item <;> cases drops
  | _ => cases item <;> cases drops

/-- What neither stores the content nor drops it leaves it where it is, until it expires. -/
theorem tracks_idle (tracks : item.Tracks system record) (forward : system.Forward event)
    (stores : item.stored? system event = none) (drops : item.isDroppedBy event = false) :
    item.Tracks (system.next event) record := by
  have config : (system.next event).service.config = system.service.config := System.config_next event
  have untouched (clock : (system.next event).clock = system.clock)
      (same : (system.next event).service.resident? .global (item.slot system.service.config).key =
        item.resident? system) : item.Tracks (system.next event) record := by
    refine tracks.pass config (Nat.le_of_eq clock.symm) ?_
    rw [resident?, config, same]
  cases event with
  | tick now => exact tracks.pass rfl forward rfl
  | read subject =>
    refine tracks.look (system.service.slot subject) (fun group key bytes unreadable => ?_) config
      (System.clock_next _) (System.service_read subject)
    rcases eq_of_slot group key with ⟨rfl, rfl⟩ | ⟨rfl, rfl⟩ <;> exact unreadable
  | warmUp => exact untouched (System.clock_next _) (by rw [System.next_warmUp, System.service_warm]; rfl)
  | settle number sources =>
    cases flies : system.loads number with
    | none => exact untouched (System.clock_next _) (by rw [System.next_settle_none flies]; rfl)
    | some load =>
      refine untouched (System.clock_next _) ?_
      rw [stored?, flies] at stores
      rw [System.service_settle flies]
      exact resident?_settle_of_not_yielded stores _ _
  | invalidate target =>
    refine untouched rfl ?_
    cases target with
    | categories =>
      refine (Service.resident?_deleteKey ..).trans (if_neg fun both => ?_)
      cases eq_of_key system.service.config categories _ both.2
      cases drops
    | tags =>
      refine (Service.resident?_deleteKey ..).trans (if_neg fun both => ?_)
      cases eq_of_key system.service.config tags _ both.2
      cases drops
    | article article =>
      exact (Service.resident?_invalidateArticle ..).trans (if_neg fun both => nomatch both.1)
    | user | list => rfl
    | everything => cases item <;> cases drops
  | prune => exact untouched rfl rfl
  | cleanup =>
    refine tracks.fade config (Nat.le_refl _) (fun entry holds => ?_) fun entry holds live => ?_
    · rw [resident?, config] at holds
      exact Service.retains_cleanup _ _ _ _ _ holds
    · rw [resident?, config]
      exact Expiring.get?_cleanup_of_live holds live
  | setOnlineCount count =>
    refine untouched rfl (Service.resident?_fillSlot_global fun same => ?_)
    cases eq_of_key system.service.config onlineCount _ (congrArg Prod.snd same)
    cases stores
  | getOnlineCount =>
    refine tracks.look system.service.onlineSlot (fun _ key bytes unreadable => ?_) config rfl rfl
    cases eq_of_key system.service.config onlineCount _ key
    exact unreadable

theorem tracks_next (tracks : item.Tracks system record) (forward : system.Forward event)
    (readable : ∀ number sources, event = .settle number sources → sources.AreReadable) :
    item.Tracks (system.next event) (item.remember system record event) := by
  unfold remember
  split
  · next content stores => exact tracks_stored stores readable
  · next stores =>
    split
    · next drops => exact .drop (gone_of_isDroppedBy drops)
    · next stays => exact tracks_idle tracks forward stores (Bool.eq_false_of_not_eq_true stays)

theorem tracks_rememberAll (tracks : item.Tracks system record) (forward : system.RunsForward events)
    (readable : ∀ number sources, Event.settle number sources ∈ events → sources.AreReadable) :
    item.Tracks (system.run events) (item.rememberAll system record events) := by
  induction events generalizing system record with
  | nil => exact tracks
  | cons event rest inductionHypothesis =>
    refine inductionHypothesis (tracks_next tracks forward.1 fun number sources settles => ?_) forward.2
      fun number sources member => readable number sources (List.mem_cons_of_mem _ member)
    exact readable number sources (settles ▸ List.mem_cons_self)

/-! ### Lifetimes -/

theorem ahead_iff {time now : Nat} {ttl : Duration} (early : now < endOfTime) :
    (∀ moment ∈ expiry time ttl, now < moment) ↔ ttl.isZero ∨ now < time + lifetimeMillis ttl := by
  unfold expiry
  cases ttl.isZero with
  | true => simp
  | false => simp [early]

/-- What is found is what is served by the record, if the lifetime fits in 64 bits. -/
theorem Tracks.answer_eq_served (tracks : item.Tracks system record) (early : system.clock < endOfTime)
    (fits : (item.slot system.service.config).ttl.millis < UInt64.size) :
    item.answer system = record.served (item.slot system.service.config).ttl system.clock := by
  refine Option.ext fun content => ?_
  have served : record.served (item.slot system.service.config).ttl system.clock = some content ↔
      ∃ time, record = some (content, time) ∧ ((item.slot system.service.config).ttl.isZero ∨
        system.clock < time + (item.slot system.service.config).ttl.millis) := by
    unfold Record.served
    simp only [Option.map_eq_some_iff, Option.filter_eq_some_iff, Prod.exists, Bool.or_eq_true,
      decide_eq_true_eq, exists_and_right, exists_eq_right]
  rw [tracks.answer_eq_some_iff, served]
  simp only [ahead_iff early, lifetimeMillis, Nat.mod_eq_of_lt fits]

/-- With a lifetime that does not fit a content is served all the time, but it is found only until as many
milliseconds are over as the low 64 bits of the lifetime say. -/
theorem Tracks.answer_of_long (tracks : item.Tracks system record) (early : system.clock < endOfTime)
    (long : UInt64.size ≤ (item.slot system.service.config).ttl.millis) {content : item.Content} {time : Nat}
    (remembered : record = some (content, time)) :
    record.served (item.slot system.service.config).ttl system.clock = some content ∧
      (item.answer system = none ↔
        time + (item.slot system.service.config).ttl.millis % UInt64.size ≤ system.clock) := by
  have within : system.clock < time + (item.slot system.service.config).ttl.millis :=
    Nat.lt_of_lt_of_le early (Nat.le_trans (Nat.sub_le _ 1) (Nat.le_trans long (Nat.le_add_left _ _)))
  have lasts : (item.slot system.service.config).ttl.isZero = false := by
    refine decide_eq_false fun zero => ?_
    rw [Duration.millis, zero] at long
    exact absurd long (by decide)
  constructor
  · rw [remembered]
    simp [Record.served, within]
  · have found : item.answer system ≠ none ↔
        system.clock < time + lifetimeMillis (item.slot system.service.config).ttl := by
      rw [Option.ne_none_iff_exists']
      constructor
      · rintro ⟨other, found⟩
        obtain ⟨moment, same, ahead⟩ := tracks.answer_eq_some_iff.1 found
        cases remembered.symm.trans same
        exact ((ahead_iff early).1 ahead).resolve_left (Bool.eq_false_iff.1 lasts)
      · intro before
        exact ⟨content, tracks.answer_eq_some_iff.2 ⟨time, remembered, (ahead_iff early).2 (Or.inr before)⟩⟩
    rw [← not_iff_not, ← ne_eq, found, Nat.not_le]
    rfl

end Shared

namespace System

/-- What becomes of a read that finds this in its slot: the content is returned and nothing loaded, or a load
begins. -/
def afterLook (system : System) (subject : Subject) (found : Option subject.Content) :
    System × Option Returned :=
  let looked := { system with service := (system.service.look system.clock subject).1 }
  match found with
  | some content => (looked, some ⟨subject, .ok content⟩)
  | none => (looked.start ⟨subject, .read⟩, none)

theorem step_read (system : System) (subject : Subject) :
    system.step (.read subject) = system.afterLook subject (system.service.look system.clock subject).2 := by
  unfold step afterLook
  dsimp only
  split
  · next found => rw [found]
  · next missed => rw [missed]

/-- Whatever has been asked of the cache, as long as the clock has not gone back, a read of the categories or the
tags returns the content that was stored last and loads nothing, if a load has stored one, by a read or a
warm-up, since they were last dropped, and its lifetime is not over; and else a load begins. This holds if the sources
have yielded only what can be read from bytes, for other content comes back from its slot as different content or not
at all, and if the clock is before the end of cache time, at which every lifetime is over. The number of users
online is what was set last, in the same way. Any event leaves what is found in a slot as it is, unless it stores
or drops the content of just this slot or the clock is set. The lifetime has to be less than 2^64 milliseconds:
of a longer one the low 64 bits count, and a content that has not been dropped is missed when they are over. -/
theorem shared_slots_exact (config : CacheConfig) (clock : Nat) (events : List Event)
    (forward : (initial config clock).RunsForward events)
    (readable : ∀ number sources, Event.settle number sources ∈ events → sources.AreReadable)
    (early : ((initial config clock).run events).clock < endOfTime) :
    let start := initial config clock
    let system := start.run events
    let ttl (item : Shared) := (item.slot config).ttl
    let record (item : Shared) : item.Record := item.rememberAll start none events
    let served (item : Shared) := (record item).served (ttl item) system.clock
    ((ttl .categories).millis < UInt64.size →
      system.step (.read .categories) = system.afterLook .categories (served .categories)) ∧
    ((ttl .tags).millis < UInt64.size →
      system.step (.read .tags) = system.afterLook .tags (served .tags)) ∧
    ((ttl .onlineCount).millis < UInt64.size →
      (system.service.getOnlineCount system.clock).2 = served .onlineCount) ∧
    (∀ (item : Shared) (event : Event), item.stored? system event = none → item.isDroppedBy event = false →
      (∀ now, event ≠ .tick now) → item.answer (system.next event) = item.answer system) ∧
    ∀ (item : Shared) (content : item.Content) (time : Nat), UInt64.size ≤ (ttl item).millis →
      record item = some (content, time) → served item = some content ∧
        (item.answer system = none ↔ time + (ttl item).millis % UInt64.size ≤ system.clock) := by
  intro start system ttl record served
  have unchanged : system.service.config = config := config_run events
  have tracks (item : Shared) : item.Tracks system (record item) :=
    Shared.tracks_rememberAll (.initial item config clock) forward readable
  have found (item : Shared) (fits : (ttl item).millis < UInt64.size) : item.answer system = served item := by
    have answers := (tracks item).answer_eq_served early
    rw [unchanged] at answers
    exact answers fits
  refine ⟨fun fits => ?_, fun fits => ?_, found .onlineCount, fun item event stores drops noTick => ?_,
    fun item content time long remembered => ?_⟩
  · rw [step_read, ← found .categories fits]
    rfl
  · rw [step_read, ← found .tags fits]
    rfl
  · have sameClock : (system.next event).clock = system.clock := by
      rw [clock_next]
      cases event with
      | tick now => exact absurd rfl (noTick now)
      | _ => rfl
    have onward : system.Forward event := by
      cases event with
      | tick now => exact absurd rfl (noTick now)
      | _ => trivial
    refine Option.ext fun content => ?_
    rw [(Shared.tracks_idle (tracks item) onward stores drops).answer_eq_some_iff,
      (tracks item).answer_eq_some_iff, sameClock, config_next]
  · have longer := (tracks item).answer_of_long early
    rw [unchanged] at longer
    exact longer long remembered

/-- After a warm-up in which the tags could not be loaded, the categories are found and returned for as long as the
lifetime says, whatever happens to the tags and the number of users online; the tags are loaded. -/
theorem shared_slots_exact_warmed :
    let category : Category := {
      id := 1, name := "n", slug := "s", description := "", parentId := 0, articleCount := 0, sortOrder := 0
      createdAt := ⟨⟨1970, 1, 1⟩, 0, 0⟩ }
    let events : List Event := [.warmUp, .settle 0 (.only .categories (.ok [category])),
      .settle 1 (.only .tags (.error .serialization)), .tick 1000, .setOnlineCount 7, .invalidate .tags, .cleanup,
      .tick 3599999]
    let system := (initial {} 0).run events
    (system.step (.read .categories)).2 = some ⟨.categories, .ok [category]⟩ ∧
      (system.step (.read .tags)).2 = none ∧ (system.service.getOnlineCount system.clock).2 = none := by
  intro category events system
  have produces : Codec.categories.Produces [category] := by
    refine ⟨_, Codec.decode?_json_render (areExact_map _ Category.isExact_toValue)
      (listOf?_document fun item member => ?_)⟩
    cases List.mem_singleton.1 member
    exact Category.ofDocument?_toValue ⟨by decide, by decide, by decide, by decide⟩
  have forward : (initial {} 0).RunsForward events :=
    ⟨trivial, trivial, trivial, Nat.zero_le _, trivial, trivial, trivial, by show 1000 ≤ 3599999; decide, trivial⟩
  have clock : system.clock = 3599999 := rfl
  have readable : ∀ number sources, Event.settle number sources ∈ events → sources.AreReadable := by
    intro number sources member
    simp only [events, List.mem_cons, Event.settle.injEq, reduceCtorEq, false_or, List.not_mem_nil,
      or_false] at member
    obtain ⟨-, rfl⟩ | ⟨-, rfl⟩ := member
    · refine Sources.areReadable_only fun content loaded => ?_
      cases loaded
      exact produces
    · exact Sources.areReadable_only fun content loaded => nomatch loaded
  have categories : Shared.categories.rememberAll (initial {} 0) none events = some ([category], 0) := rfl
  have online : Shared.onlineCount.rememberAll (initial {} 0) none events = some ((7 : Int64), 1000) := rfl
  obtain ⟨first, second, third, -⟩ :=
    shared_slots_exact {} 0 events forward readable (clock.trans_lt (by decide))
  have fresh : Shared.Record.served (Shared.categories.rememberAll (initial {} 0) none events)
      (.ofSeconds 3600) system.clock = some [category] := by
    rw [categories, clock]
    exact congrArg (Option.map _) (Option.filter_some_pos (by decide))
  have stale : Shared.Record.served (Shared.onlineCount.rememberAll (initial {} 0) none events)
      (.ofSeconds 10) system.clock = none := by
    rw [online, clock]
    exact congrArg (Option.map _) (Option.filter_some_neg (by decide))
  refine ⟨?_, ?_, (third (by decide)).trans stale⟩
  · rw [first (by decide)]
    exact congrArg (fun found => (system.afterLook .categories found).2) fresh
  · rw [second (by decide)]
    rfl

/-- Categories that are stored for more than five hundred million years are missed 384 milliseconds later, though
they have not been dropped. -/
theorem shared_slots_lapse :
    let config : CacheConfig := { categoriesTtl := .ofSeconds 18446744073709552 }
    let start := initial config 1700000000000
    let events : List Event := [.read .categories, .settle 0 (.only .categories (.ok [])), .tick 1700000000384]
    let system := start.run events
    start.RunsForward events ∧
      (∀ number sources, Event.settle number sources ∈ events → sources.AreReadable) ∧
      Shared.categories.rememberAll start none events = some ([], 1700000000000) ∧
      system.clock < 1700000000000 + config.categoriesTtl.millis ∧
      (system.step (.read .categories)).2 = none := by
  intro config start events system
  have produces : Codec.categories.Produces [] :=
    ⟨_, Codec.decode?_json_render (areExact_map _ Category.isExact_toValue) (listOf?_document nofun)⟩
  have readable : ∀ number sources, Event.settle number sources ∈ events → sources.AreReadable := by
    intro number sources member
    simp only [events, List.mem_cons, Event.settle.injEq, reduceCtorEq, false_or, List.not_mem_nil,
      or_false] at member
    obtain ⟨-, rfl⟩ := member
    refine Sources.areReadable_only fun content loaded => ?_
    cases loaded
    exact produces
  have forward : start.RunsForward events :=
    ⟨trivial, trivial, by show 1700000000000 ≤ 1700000000384; decide, trivial⟩
  have clock : system.clock = 1700000000384 := rfl
  have remembered : Shared.categories.rememberAll start none events = some ([], 1700000000000) := rfl
  have tracks : Shared.categories.Tracks system _ :=
    Shared.tracks_rememberAll (.initial _ config _) forward readable
  have missed : Shared.categories.answer system = none :=
    (tracks.answer_of_long (clock.trans_lt (by decide)) (by decide) remembered).2.2 (by rw [clock]; decide)
  refine ⟨forward, readable, remembered, clock.trans_lt (by decide), ?_⟩
  rw [step_read]
  exact congrArg (fun found => (system.afterLook .categories found).2) missed

end System

end Community.Cache
