/-
This file proves what a read can return once its subject has been invalidated. It is never a value that was in
the cache at the invalidation. It is what the read's own load yields, or what another load has put into the
slot since; that load has begun after the invalidation, or it was in progress at it. Nothing stops a load that
was in progress: invalidating drops what is in the cache, and a load that ends later fills its slot whatever has
happened since it began. For an article the clock must not go back, because the index does not keep slots whose
entries have expired.
-/

import Community.Proofs.Cache.Index

namespace Community.Cache

/-! ### Slots and their subjects -/

/-- Can content of one subject be read from the slot of another as this value? -/
def Subject.Yields (loaded : Subject) (content : loaded.Content) (subject : Subject)
    (value : subject.Content) : Prop :=
  loaded.place = subject.place ∧
    ∃ bytes, loaded.codec.encode? content = some bytes ∧ subject.codec.decode? bytes = some value

/-- No subject has the slot of the number of users online. -/
theorem Subject.place_ne_onlineCount (subject : Subject) :
    subject.place ≠ (.global, Key.onlineCount) := by
  cases subject with
  | categories | tags => decide
  | article | user | list => nofun

namespace Service

variable {service : Service} {now : Nat} {subject : Subject} {target : Target}
  {entry : Entry ByteArray}

theorem group_slot (service : Service) (subject : Subject) :
    (service.slot subject).group = subject.place.1 := by
  cases subject <;> rfl

theorem key_slot (service : Service) (subject : Subject) :
    (service.slot subject).key = subject.place.2 := by
  cases subject <;> rfl

theorem codec_slot (service : Service) (subject : Subject) :
    (service.slot subject).codec = subject.codec := by
  cases subject <;> rfl

/-- What is found in the slot of a subject is read from the bytes of a live entry. -/
theorem look_eq_some {value : subject.Content} (found : (service.look now subject).2 = some value) :
    ∃ entry, service.resident? subject.place.1 subject.place.2 = some entry ∧
      entry.isExpired now = false ∧ subject.codec.decode? entry.value = some value := by
  have held := lookSlot_eq_some found
  rwa [group_slot, key_slot, codec_slot] at held

/-- The content of a live entry in the slot of a subject is found. -/
theorem look_of_live {value : subject.Content}
    (holds : service.resident? subject.place.1 subject.place.2 = some entry)
    (live : entry.isExpired now = false) (decoded : subject.codec.decode? entry.value = some value) :
    (service.look now subject).2 = some value := by
  refine lookSlot_of_live ?_ live ?_
  · rwa [group_slot, key_slot]
  · rwa [codec_slot]

/-- A subject that is loaded puts its content into its own slot, for the lifetime of the slot. -/
theorem resident?_settle {place : Group} {key : String} {loaded : Outcome subject.Content}
    (holds : (service.settle now subject loaded).1.resident? place key = some entry) :
    (∃ content, loaded = .ok content ∧ subject.place = (place, key) ∧
      subject.codec.encode? content = some entry.value ∧
      entry.expiresAt = expiry now (service.slot subject).ttl) ∨
      service.resident? place key = some entry := by
  cases loaded with
  | error error => exact Or.inr holds
  | ok content =>
    have filled : (service.fillSlot now (service.slot subject) content).1.resident? place key =
        some entry := by
      rw [← resident?_fill]
      exact holds
    rcases resident?_fillSlot filled with ⟨samePlace, sameKey, written, ends⟩ | held
    · refine Or.inl ⟨content, rfl, ?_, ?_, ends⟩
      · rw [samePlace, sameKey, group_slot, key_slot]
      · rwa [codec_slot] at written
    · exact Or.inr held

/-- Nothing is left of a subject that is invalidated, except for copies of an article that the index has
missed. -/
theorem resident?_invalidate (covers : target.Covers subject)
    (holds : (service.invalidate target).resident? subject.place.1 subject.place.2 = some entry) :
    ∃ article, target = .article article ∧ (service.Indexed now → entry.isExpired now) := by
  have gone {group : Group} {key : String}
      (deleted : (service.deleteKey group key).1.resident? group key = some entry) : False := by
    rw [resident?_deleteKey, if_pos ⟨rfl, rfl⟩] at deleted
    cases deleted
  cases target with
  | categories =>
    cases covers
    exact (gone holds).elim
  | tags =>
    cases covers
    exact (gone holds).elim
  | user id =>
    obtain ⟨kind, rfl⟩ := covers
    exact (gone holds).elim
  | list key =>
    obtain ⟨kind, rfl⟩ := covers
    exact (gone holds).elim
  | article article =>
    obtain ⟨viewer, rfl⟩ := covers
    exact ⟨article, rfl, fun indexed => indexed.isExpired_invalidateArticle holds⟩
  | everything =>
    rw [invalidate, resident?_clearAll] at holds
    cases holds

theorem snd_settle (service : Service) (now : Nat) (subject : Subject)
    (loaded : Outcome subject.Content) : (service.settle now subject loaded).2 = loaded := by
  cases loaded <;> rfl

end Service

namespace System

variable {system : System} {event : Event} {events rest : List Event} {number : Nat} {load : Load}
  {subject : Subject}

/-! ### Where an entry comes from -/

/-- Does a load end in the course of some events, with this content? -/
def Delivers (system : System) (events : List Event) (number : Nat) (load : Load)
    (content : load.subject.Content) : Prop :=
  ∃ first sources rest, events = first ++ .settle number sources :: rest ∧
    (system.run first).loads number = some load ∧ sources load.subject = .ok content

/-- Does the end of a load put this entry into the slot of a subject? -/
def Fills (system : System) (number : Nat) (sources : Sources) (subject : Subject)
    (entry : Entry ByteArray) : Prop :=
  ∃ load content, system.loads number = some load ∧ sources load.subject = .ok content ∧
    load.subject.place = subject.place ∧ load.subject.codec.encode? content = some entry.value ∧
    entry.expiresAt = expiry system.clock (system.service.slot load.subject).ttl

/-- What the slot of a subject holds after an event was there before, or a load that ended has put it
there. -/
theorem resident?_next {entry : Entry ByteArray}
    (holds : (system.next event).service.resident? subject.place.1 subject.place.2 = some entry) :
    (∃ number sources, event = .settle number sources ∧ system.Fills number sources subject entry) ∨
      system.service.resident? subject.place.1 subject.place.2 = some entry := by
  have kept (retains : system.service.Retains (system.next event).service) :
      (∃ number sources, event = .settle number sources ∧ system.Fills number sources subject entry) ∨
        system.service.resident? subject.place.1 subject.place.2 = some entry :=
    Or.inr (retains _ _ _ holds)
  cases event with
  | tick => exact Or.inr holds
  | read wanted =>
    rw [service_read] at kept
    exact kept (Service.retains_lookSlot _ _ _)
  | warmUp =>
    rw [next_warmUp, service_warm] at holds
    exact Or.inr holds
  | settle number sources =>
    cases flies : system.loads number with
    | none =>
      rw [next_settle_none flies] at holds
      exact Or.inr holds
    | some load =>
      rw [service_settle flies] at holds
      refine (Service.resident?_settle holds).imp_left fun ⟨content, loaded, samePlace, written, ends⟩ => ?_
      exact ⟨number, sources, rfl, load, content, flies, loaded, samePlace, written, ends⟩
  | invalidate target => exact kept (Service.retains_invalidate _ target)
  | prune => exact kept (Service.retains_pruneIndex _ _)
  | cleanup => exact kept (Service.retains_cleanup _ _)
  | setOnlineCount count =>
    rcases Service.resident?_fillSlot holds with ⟨group, key, -⟩ | held
    · exact absurd (Prod.ext group key) (Subject.place_ne_onlineCount subject)
    · exact Or.inr held
  | getOnlineCount => exact kept (Service.retains_lookSlot _ _ _)

theorem resident?_run {entry : Entry ByteArray}
    (holds : (system.run events).service.resident? subject.place.1 subject.place.2 = some entry) :
    (∃ first number sources rest, events = first ++ .settle number sources :: rest ∧
      (system.run first).Fills number sources subject entry) ∨
      system.service.resident? subject.place.1 subject.place.2 = some entry := by
  induction events generalizing system with
  | nil => exact Or.inr holds
  | cons event rest inductionHypothesis =>
    rcases inductionHypothesis holds with ⟨first, number, sources, further, rfl, fills⟩ | held
    · exact Or.inl ⟨event :: first, number, sources, further, rfl, fills⟩
    · refine (resident?_next held).imp_left fun ⟨number, sources, settles, fills⟩ => ?_
      exact ⟨[], number, sources, rest, by rw [settles]; rfl, fills⟩

/-! ### Loads in progress -/

theorem begun_le_warm (system : System) (rest : List Subject) :
    system.begun ≤ (system.warm rest).begun := by
  cases rest with
  | nil => exact Nat.le_refl _
  | cons => exact Nat.le_succ _

theorem begun_le_next (system : System) (event : Event) :
    system.begun ≤ (system.next event).begun := by
  cases event with
  | tick | invalidate | prune | cleanup | setOnlineCount | getOnlineCount => exact Nat.le_refl _
  | warmUp => exact begun_le_warm _ _
  | read subject =>
    rcases system.next_read subject with found | missed
    · exact Nat.le_of_eq (congrArg begun found).symm
    · rw [missed]
      exact Nat.le_succ _
  | settle number sources =>
    cases flies : system.loads number with
    | none => exact Nat.le_of_eq (congrArg begun (next_settle_none flies)).symm
    | some load =>
      rw [next_settle flies]
      exact (system.finish number _).begun_le_warm _

theorem loads_start {other : Load} (flies : (system.start other).loads number = some load) :
    system.loads number = some load ∨ number = system.begun := by
  unfold start at flies
  dsimp only at flies
  rw [Function.update_apply] at flies
  split at flies
  · next latest => exact Or.inr latest
  · exact Or.inl flies

theorem loads_warm {rest : List Subject} (flies : (system.warm rest).loads number = some load) :
    system.loads number = some load ∨ number = system.begun := by
  cases rest with
  | nil => exact Or.inl flies
  | cons => exact loads_start flies

/-- A load in progress after an event was so before, or it has begun with the event. -/
theorem loads_next (flies : (system.next event).loads number = some load) :
    system.loads number = some load ∨ number = system.begun := by
  cases event with
  | tick | invalidate | prune | cleanup | setOnlineCount | getOnlineCount => exact Or.inl flies
  | warmUp =>
    rw [next_warmUp] at flies
    exact loads_warm flies
  | read subject =>
    rcases system.next_read subject with found | missed
    · rw [found] at flies
      exact Or.inl flies
    · rw [missed] at flies
      exact loads_start flies
  | settle ended sources =>
    cases settles : system.loads ended with
    | none =>
      rw [next_settle_none settles] at flies
      exact Or.inl flies
    | some settled =>
      rw [next_settle settles] at flies
      refine (loads_warm flies).imp_left fun stays => ?_
      unfold finish at stays
      dsimp only at stays
      rw [Function.update_apply] at stays
      split at stays
      · cases stays
      · exact stays

/-- A load that has begun already and is in progress later has been in progress ever since. -/
theorem loads_of_run (begun : number < system.begun)
    (flies : (system.run events).loads number = some load) : system.loads number = some load := by
  induction events generalizing system with
  | nil => exact flies
  | cons event rest inductionHypothesis =>
    have afterwards := inductionHypothesis (Nat.lt_of_lt_of_le begun (system.begun_le_next event)) flies
    exact (loads_next afterwards).resolve_right (Nat.ne_of_lt begun)

/-! ### What a read returns -/

/-- A read is given what is in the slot, or what its own load has yielded. -/
theorem returned_cases {value : subject.Content}
    (returns : (system.step event).2 = some ⟨subject, .ok value⟩) :
    (event = .read subject ∧ (system.service.look system.clock subject).2 = some value) ∨
      ∃ number sources, event = .settle number sources ∧
        system.loads number = some ⟨subject, .read⟩ ∧ sources subject = .ok value := by
  cases event with
  | tick | warmUp | invalidate | prune | cleanup | setOnlineCount | getOnlineCount => cases returns
  | read wanted =>
    unfold step at returns
    dsimp only at returns
    split at returns
    · next looked =>
      cases returns
      exact Or.inl ⟨rfl, congrArg Prod.snd looked⟩
    · cases returns
  | settle number sources =>
    unfold step at returns
    dsimp only at returns
    split at returns
    · cases returns
    · next load flies =>
      split at returns
      · next answers =>
        refine Or.inr ⟨number, sources, rfl, ?_⟩
        obtain ⟨loaded, purpose⟩ := load
        cases answers
        injection returns with same
        injection same with sameSubject sameOutcome
        cases sameSubject
        exact ⟨flies, (Service.snd_settle ..).symm.trans (eq_of_heq sameOutcome)⟩
      · cases returns

/-- The system right after an invalidation that follows some events. -/
def invalidated (config : CacheConfig) (clock : Nat) (earlier : List Event) (target : Target) :
    System :=
  ((initial config clock).run earlier).next (.invalidate target)

/-- A value that is found after its subject has been invalidated was put into the slot since. -/
theorem delivers_of_found {config : CacheConfig} {clock : Nat} {earlier later : List Event}
    {target : Target} {subject : Subject} {value : subject.Content} (covers : target.Covers subject)
    (forward : ∀ article, target = .article article →
      (initial config clock).RunsForward (earlier ++ .invalidate target :: later))
    (found : let reached := (invalidated config clock earlier target).run later
      (reached.service.look reached.clock subject).2 = some value) :
    ∃ number load content, (invalidated config clock earlier target).Delivers later number load content ∧
      load.subject.Yields content subject value := by
  obtain ⟨entry, holds, live, decoded⟩ := Service.look_eq_some found
  have filled := (resident?_run holds).resolve_right fun resident => by
    obtain ⟨article, rfl, expires⟩ := Service.resident?_invalidate covers resident
    obtain ⟨before, after⟩ := runsForward_append.1 (forward article rfl)
    have expired := expires (indexed_run (indexed_initial config clock) before)
    rw [Entry.isLive_of_later (clock_le_run after) live] at expired
    cases expired
  obtain ⟨first, number, sources, rest, split, load, content, flies, loaded, samePlace, written, -⟩ := filled
  exact ⟨number, load, content, ⟨first, sources, rest, split, flies, loaded⟩, samePlace, _, written, decoded⟩

/-- An article with nothing in it. -/
def draft : Article where
  id := 1
  userId := 1
  title := ""
  description := ""
  content := ""
  status := 0
  viewCount := 0
  likeCount := 0
  commentCount := 0
  author := ⟨1, "", "", ""⟩
  categories := []
  tags := []
  isLiked := false
  createdAt := ⟨⟨2024, 1, 1⟩, 0, 0⟩
  updatedAt := ⟨⟨2024, 1, 1⟩, 0, 0⟩

/-- What a read returns that starts after its subject has been invalidated is what its own load yields, or it
is what another load has put into the slot since. That load has begun after the invalidation or was in
progress at it. -/
theorem returned_value_supplied (config : CacheConfig) (clock : Nat) (earlier later : List Event)
    (event : Event) (target : Target) (subject : Subject) (value : subject.Content)
    (covers : target.Covers subject)
    (forward : ∀ article, target = .article article →
      (initial config clock).RunsForward (earlier ++ .invalidate target :: later))
    (starts : ∀ number sources, event = .settle number sources →
      (invalidated config clock earlier target).begun ≤ number)
    (returns : (((invalidated config clock earlier target).run later).step event).2 =
      some ⟨subject, .ok value⟩) :
    let system := invalidated config clock earlier target
    (∃ number sources, event = .settle number sources ∧ system.begun ≤ number ∧
      (system.run later).loads number = some ⟨subject, .read⟩ ∧ sources subject = .ok value) ∨
    event = .read subject ∧
      ∃ number load content, system.Delivers later number load content ∧
        load.subject.Yields content subject value ∧
        (system.begun ≤ number ∨ system.loads number = some load) := by
  intro system
  rcases returned_cases returns with ⟨reads, found⟩ | ⟨number, sources, settles, flies, loaded⟩
  · obtain ⟨number, load, content, delivers, yields⟩ := delivers_of_found covers forward found
    refine Or.inr ⟨reads, number, load, content, delivers, yields, ?_⟩
    obtain ⟨first, sources, rest, -, flies, -⟩ := delivers
    rcases Nat.lt_or_ge number system.begun with before | after
    · exact Or.inr (loads_of_run before flies)
    · exact Or.inl after
  · exact Or.inl ⟨number, sources, settles, starts number sources settles, flies, loaded⟩

/-- A viewer asks for an article that has been dropped and is given what is loaded then, and a user who has
been loaded again is read from the cache. -/
theorem returned_value_supplied_reloaded :
    (let article := Subject.article 1 2
     let dropped := invalidated {} 0 [.read article, .tick 5] (.article 1)
     dropped.begun ≤ 1 ∧ (dropped.run [.read article]).loads 1 = some ⟨article, .read⟩) ∧
    let user := Subject.user 1 .number
    let dropped := invalidated {} 0 [.read user] (.user 1)
    ∃ number load content,
      dropped.Delivers [.read user, .settle 1 (.only user (.ok (.number 8)))] number load content ∧
        load.subject.Yields content user (Payload.number 8) ∧
        (dropped.begun ≤ number ∨ dropped.loads number = some load) := by
  constructor
  · rcases returned_value_supplied {} 0 [.read (.article 1 2), .tick 5] [.read (.article 1 2)]
      (.settle 1 (.only (.article 1 2) (.ok draft))) (.article 1) (.article 1 2) draft ⟨2, rfl⟩
      (fun _ _ => ⟨trivial, Nat.zero_le 5, trivial, trivial, trivial⟩)
      (fun number sources settles => by cases settles; decide) rfl
      with ⟨number, sources, settles, after, flies, -⟩ | ⟨reads, -⟩
    · cases settles
      exact ⟨after, flies⟩
    · cases reads
  · rcases returned_value_supplied {} 0 [.read (.user 1 .number)]
      [.read (.user 1 .number), .settle 1 (.only (.user 1 .number) (.ok (.number 8)))]
      (.read (.user 1 .number)) (.user 1) (.user 1 .number) (Payload.number 8) ⟨.number, rfl⟩
      (by nofun) (by nofun) rfl with ⟨number, sources, settles, -⟩ | ⟨-, supplied⟩
    · cases settles
    · exact supplied

/-- A load that is in progress when its user is dropped fills the slot afterwards: the value is returned
although no load has begun since. And an article whose slot the index has forgotten is still there after it
has been dropped, and lives again because the clock has gone back. -/
theorem returned_value_stale :
    (let user := Subject.user 1 .number
     let dropped := invalidated {} 0 [.read user] (.user 1)
     let later := dropped.run [.settle 0 (.only user (.ok (.number 7)))]
     (later.step (.read user)).2 = some ⟨user, .ok (Payload.number 7)⟩ ∧ later.begun = dropped.begun) ∧
    let article := Subject.article 1 2
    let earlier : List Event :=
      [.read article, .settle 0 (.only article (.ok draft)), .tick 300000, .prune, .tick 0]
    let dropped := invalidated {} 0 earlier (.article 1)
    dropped.service.articles.contains dropped.clock (Key.articleDetail 1 2) :=
  ⟨⟨rfl, rfl⟩, by decide +kernel⟩

end System

end Community.Cache
