/-
This file proves whose copy of an article a read returns, and how old it is. What is found in an article's slot
was written there when some load ended, and the key of the slot tells of which article and for which viewer. What is
returned is read from the bytes that were written for what the load yielded. The bytes of an article with real dates
are read back as that article; a leap second that does not end a minute is written like another point in time, and
read as that one. A copy is served for less than the lifetime of the slot in the time of the cache, as far as the
lifetime is one: a lifetime of zero means that a copy is served for ever. The time of the cache stands still as long
as the wall clock is before the epoch.
-/

import Community.Proofs.Cache.Freshness
import Community.Proofs.Catalog.Codec

namespace Community.Cache

/-! ### Articles in slots -/

/-- An article is read back from the bytes that are written for it. -/
theorem Codec.decode?_article {article : Article} {bytes : ByteArray} (real : article.IsReal)
    (written : Codec.article.encode? article = some bytes) :
    Codec.article.decode? bytes = some article := by
  have rendered : article.toValue.render.toUTF8 = bytes := Option.some.inj written
  show (Json.Document.ofBytes? bytes).bind Article.ofDocument? = some article
  rw [← rendered, Json.ofBytes?_render article.isExact_toValue, Option.bind_some,
    Article.ofDocument?_toValue real]

/-- The slot of a viewer's copy of an article is that of no other subject. -/
theorem Subject.place_eq_article {subject : Subject} {article viewer : UInt64}
    (same : subject.place = (Subject.article article viewer).place) : subject = .article article viewer := by
  cases subject with
  | article other watcher =>
    obtain ⟨rfl, rfl⟩ := Key.articleDetail_inj.1 (congrArg Prod.snd same)
    rfl
  | categories | tags | user | list => cases congrArg Prod.fst same

/-- What is live and expires at all has been there for less than its lifetime. -/
theorem Entry.lt_of_isLive {ν : Type} {entry : Entry ν} {stored now : Nat} {ttl : Duration}
    (finite : ttl.isZero = false) (ends : entry.expiresAt = expiry stored ttl)
    (live : entry.isExpired now = false) : now < stored + lifetimeMillis ttl := by
  have ends : entry.expiresAt = some (min (stored + lifetimeMillis ttl) endOfTime) := by
    rw [ends, expiry, if_neg (Bool.not_eq_true _ ▸ finite)]
  have before : now < min (stored + lifetimeMillis ttl) endOfTime := by
    simpa only [isExpired, ends, decide_eq_false_iff_not, Nat.not_le] using live
  exact Nat.lt_of_lt_of_le before (Nat.min_le_left _ _)

namespace Service

/-- What is read from the bytes of what has been loaded is found as long as it lives. -/
theorem look_settle (service : Service) (stored now : Nat) {subject : Subject} {content value : subject.Content}
    (yields : subject.Yields content subject value)
    (lives : ∀ expires, expiry stored (service.slot subject).ttl = some expires → now < expires) :
    ((service.settle stored subject (.ok content)).1.look now subject).2 = some value := by
  obtain ⟨-, bytes, written, read⟩ := yields
  have filled : service.fillSlot stored (service.slot subject) content =
      (service.putBytes stored (service.slot subject).group (service.slot subject).key bytes
        (service.slot subject).ttl, true) := by
    rw [fillSlot, codec_slot, written]
  obtain ⟨entry, holds, rfl, ends⟩ := service.exists_resident?_putBytes stored
    (service.slot subject).group (service.slot subject).key bytes (service.slot subject).ttl
  have stays : (service.settle stored subject (.ok content)).1.resident? subject.place.1 subject.place.2 =
      some entry := by
    show (service.fill stored subject content).1.resident? _ _ = _
    rw [resident?_fill, filled, ← group_slot service, ← key_slot service, holds]
  have live : entry.isExpired now = false := by
    unfold Entry.isExpired
    split
    · next expires ending =>
      exact decide_eq_false (Nat.not_le.2 (lives expires (ends.symm.trans ending)))
    · rfl
  exact look_of_live stays live read

end Service

/-! ### Where a copy comes from -/

/-- An article with real dates is served as it is. -/
theorem Subject.Yields.eq_of_isReal {article viewer : UInt64} {loaded value : Article}
    (yields : (Subject.article article viewer).Yields loaded (.article article viewer) value)
    (real : loaded.IsReal) : value = loaded := by
  obtain ⟨-, bytes, written, read⟩ := yields
  exact Option.some.inj (read.symm.trans (Codec.decode?_article real written))

/-- An article of a catalog file is served as it is. -/
theorem Subject.Yields.eq_of_load {file : Option ByteArray} {repository : Repository} {article viewer : UInt64}
    {loaded value : Article} (yields : (Subject.article article viewer).Yields loaded (.article article viewer) value)
    (read : Repository.load file = .ok repository) (serves : repository.article article viewer = .ok loaded) :
    value = loaded :=
  yields.eq_of_isReal (Repository.isReal_of_load read serves)

namespace System

variable {system : System} {number : Nat} {sources : Sources} {article viewer : UInt64} {value : Article}
  {entry : Entry ByteArray}

/-- What a load has put into the slot of a viewer's copy of an article was loaded for that article and viewer,
and is read from what was written for it. -/
theorem Fills.of_article (fills : system.Fills number sources (.article article viewer) entry)
    (decoded : Codec.article.decode? entry.value = some value) :
    (∃ load, system.loads number = some load ∧ load.subject = .article article viewer) ∧
      (∃ loaded, sources (.article article viewer) = .ok loaded ∧
        (Subject.article article viewer).Yields loaded (.article article viewer) value) ∧
      entry.expiresAt = expiry system.clock system.service.config.articleDetailTtl := by
  obtain ⟨⟨subject, purpose⟩, content, flies, loaded, samePlace, written, ends⟩ := fills
  cases Subject.place_eq_article samePlace
  exact ⟨⟨_, flies, rfl⟩, ⟨content, loaded, rfl, _, written, decoded⟩, ends⟩

theorem step_read_of_found {subject : Subject} {content : subject.Content}
    (found : (system.service.look system.clock subject).2 = some content) :
    (system.step (.read subject)).2 = some ⟨subject, .ok content⟩ := by
  unfold step
  dsimp only
  split
  · next looked =>
    rw [looked] at found
    cases found
    rfl
  · next looked =>
    rw [looked] at found
    cases found

/-- What a read of an article returns is what has been loaded for this article and this viewer by the read's own
load, or what is read from the bytes of what a load put into the slot less than the lifetime of the slot ago. Then it
is what was loaded, if this is an article with real dates, as the articles of a catalog file are. -/
theorem returned_article_supplied (config : CacheConfig) (clock : Nat) (events : List Event)
    (event : Event) (article viewer : UInt64) (value : Article)
    (finite : config.articleDetailTtl.isZero = false)
    (forward : (initial config clock).RunsForward events)
    (returns : (((initial config clock).run events).step event).2 =
      some ⟨.article article viewer, .ok value⟩) :
    let system := (initial config clock).run events
    (∃ number sources, event = .settle number sources ∧
      system.loads number = some ⟨.article article viewer, .read⟩ ∧
      sources (.article article viewer) = .ok value) ∨
    event = .read (.article article viewer) ∧
      ∃ first number sources rest load loaded, events = first ++ .settle number sources :: rest ∧
        let stored := (initial config clock).run first
        stored.loads number = some load ∧ load.subject = .article article viewer ∧
        sources (.article article viewer) = .ok loaded ∧
        (Subject.article article viewer).Yields loaded (.article article viewer) value ∧
        (loaded.IsReal → value = loaded) ∧
        (∀ file repository, Repository.load file = .ok repository →
          repository.article article viewer = .ok loaded → value = loaded) ∧
        stored.clock ≤ system.clock ∧
        system.clock < stored.clock + lifetimeMillis config.articleDetailTtl := by
  intro system
  rcases returned_cases returns with ⟨reads, found⟩ | own
  · obtain ⟨entry, holds, live, decoded⟩ := Service.look_eq_some found
    have filled := (resident?_run holds).resolve_right fun resident => by cases resident
    obtain ⟨first, number, sources, rest, split, fills⟩ := filled
    obtain ⟨⟨load, flies, same⟩, ⟨loaded, delivered, yields⟩, ends⟩ := fills.of_article decoded
    rw [config_run] at ends
    have passes : ((initial config clock).run first).clock ≤ system.clock := by
      have later := clock_le_run (runsForward_append.1 (split ▸ forward)).2
      rwa [← run_append, ← split] at later
    exact Or.inr ⟨reads, first, number, sources, rest, load, loaded, split, flies, same, delivered, yields,
      yields.eq_of_isReal, fun _ _ => yields.eq_of_load, passes, Entry.lt_of_isLive finite ends live⟩
  · exact Or.inl own

theorem draft_isReal : draft.IsReal :=
  have date : DateTime.IsReal ⟨⟨2024, 1, 1⟩, 0, 0⟩ := ⟨by decide, by decide, by decide, by decide⟩
  ⟨by nofun, by nofun, date, date⟩

/-- A viewer's copy is loaded and found again as long as its five minutes have not passed. -/
theorem returned_article_supplied_found :
    let viewed := Subject.article 1 2
    let events : List Event := [.read viewed, .settle 0 (.only viewed (.ok draft)), .tick 299999]
    let system := (initial {} 0).run events
    (system.step (.read viewed)).2 = some ⟨viewed, .ok draft⟩ ∧
      ∃ first number sources rest load loaded, events = first ++ .settle number sources :: rest ∧
        let stored := (initial {} 0).run first
        stored.loads number = some load ∧ load.subject = viewed ∧ sources viewed = .ok loaded ∧
        (loaded.IsReal → draft = loaded) ∧
        stored.clock ≤ system.clock ∧ system.clock < stored.clock + 300000 := by
  intro viewed events system
  have returns : (system.step (.read viewed)).2 = some ⟨viewed, .ok draft⟩ := by
    refine step_read_of_found (Service.look_settle _ 0 _
      ⟨rfl, _, rfl, Codec.decode?_article draft_isReal rfl⟩ ?_)
    intro expires ends
    cases ends
    decide
  refine ⟨returns, ?_⟩
  rcases returned_article_supplied {} 0 events (.read viewed) 1 2 draft (by decide)
    ⟨trivial, trivial, Nat.zero_le _, trivial⟩ returns with ⟨number, sources, settles, -⟩ | ⟨-, supplied⟩
  · cases settles
  · obtain ⟨first, number, sources, rest, load, loaded, split, flies, same, delivered, -, stays, -, passes, ends⟩ :=
      supplied
    exact ⟨first, number, sources, rest, load, loaded, split, flies, same, delivered, stays, passes, ends⟩

/-- An article was created in a leap second after the thirtieth second of a minute. It is loaded and served with the
next second, because both are written alike. And a copy that is stored a second before the epoch for half a second is
served after more than a second, because the time of the cache has stood still until the epoch. -/
theorem returned_article_supplied_rewritten :
    let viewed := Subject.article 1 2
    (let leap : Article := { draft with createdAt := ⟨⟨2024, 1, 1⟩, 30, 1500000000⟩ }
     let next : Article := { draft with createdAt := ⟨⟨2024, 1, 1⟩, 31, 500000000⟩ }
     let system := (initial {} 0).run [.read viewed, .settle 0 (.only viewed (.ok leap))]
     (system.step (.read viewed)).2 = some ⟨viewed, .ok next⟩ ∧ next ≠ leap) ∧
    let ttl : Duration := .ofMillis 500
    let system := (initial { articleDetailTtl := ttl } (timeOfClock (-1000))).run
      [.read viewed, .settle 0 (.only viewed (.ok draft)), .tick (timeOfClock 400)]
    (system.step (.read viewed)).2 = some ⟨viewed, .ok draft⟩ ∧ -1000 + (ttl.millis : Int) ≤ 400 := by
  intro viewed
  constructor
  · intro leap next system
    have alike : Codec.article.encode? leap = Codec.article.encode? next := by
      have sameText : leap.createdAt.write = next.createdAt.write := by decide
      have sameDate : leap.createdAt.toValue = next.createdAt.toValue := congrArg Json.Value.text sameText
      have sameValue : leap.toValue = next.toValue := by
        unfold Article.toValue
        rw [sameDate]
      exact congrArg (fun value : Json.Value => some value.render.toUTF8) sameValue
    have real : next.IsReal :=
      { draft_isReal with createdAt := ⟨by decide, by decide, by decide, by decide⟩ }
    refine ⟨step_read_of_found (Service.look_settle _ 0 _
      ⟨rfl, _, alike, Codec.decode?_article real rfl⟩ ?_), by decide⟩
    intro expires ends
    cases ends
    decide
  · intro ttl system
    refine ⟨step_read_of_found (Service.look_settle _ 0 _
      ⟨rfl, _, rfl, Codec.decode?_article draft_isReal rfl⟩ ?_), by decide⟩
    intro expires ends
    cases ends
    decide

end System

end Community.Cache
