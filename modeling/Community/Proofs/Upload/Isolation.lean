/-
This file proves that uploads are isolated from each other by their identifiers. Every event works on the
uploads of the call of which it is a part; a sweep works on one upload at a time, on the one whose blobs it is
removing. Whatever else happens leaves an upload as it is: where its identifier leads, every session that was
ever made under it, its chunks, and the calls that are at work on it. In the store a call asks for nothing but
the chunks of its own upload, and it sees nothing of the others.
-/

import Community.Proofs.Upload.Aside
import Community.Proofs.Upload.Confinement

namespace Community.Upload

open Community.Blob

namespace System

/-- The upload on which the call with a number works at the moment. -/
def current? (system : System) (number : Nat) : Option String :=
  (system.flights number).map fun flight => flight.pending.upload

/-- The uploads on which an event works. What a part of a sweep works on is the upload whose blobs it was
removing and the one that it takes up next. -/
def uploads (system : System) (event : Event) : List String :=
  match event with
  | .tick _ => []
  | .announce _ announced => [announced.uploadId]
  | .begin call => call.uploadId?.toList ++ ((system.next event).current? system.begun).toList
  | .sweep _ => ((system.next event).current? system.begun).toList
  | .serve number _ => (system.current? number).toList
  | .resume number => (system.current? number).toList ++ ((system.next event).current? number).toList

/-- The event works on other uploads. -/
def Spares (uploadId : String) (system : System) (event : Event) : Prop :=
  uploadId ∉ system.uploads event

instance (uploadId : String) (system : System) (event : Event) :
    Decidable (system.Spares uploadId event) :=
  inferInstanceAs (Decidable (_ ∉ _))

/-- Nothing of an upload has changed: where its identifier leads, the sessions that belong to it, its chunks,
and the calls that are at work on it. -/
structure Preserves (uploadId : String) (before after : System) : Prop where
  tracked : after.place? uploadId = before.place? uploadId
  sessions : ∀ place, before.coordinator.Names uploadId place →
    after.coordinator.session? place = before.coordinator.session? place
  chunks : ∀ index, after.chunk? uploadId index = before.chunk? uploadId index
  flights : ∀ number, before.current? number = some uploadId ∨ after.current? number = some uploadId →
    after.flights number = before.flights number

namespace Preserves

variable {uploadId : String} {before middle after : System}

theorem refl (uploadId : String) (system : System) : Preserves uploadId system system :=
  ⟨rfl, fun _ _ => rfl, fun _ => rfl, fun _ _ => rfl⟩

theorem trans (first : Preserves uploadId before middle) (second : Preserves uploadId middle after) :
    Preserves uploadId before after where
  tracked := second.tracked.trans first.tracked
  sessions place names := by
    have same := first.sessions place names
    obtain ⟨session, found, named⟩ := names
    exact (second.sessions place ⟨session, same.trans found, named⟩).trans same
  chunks index := (second.chunks index).trans (first.chunks index)
  flights number works := by
    rcases works with was | works
    · have same := first.flights number (Or.inl was)
      have still : middle.current? number = some uploadId := by rw [current?, same]; exact was
      exact (second.flights number (Or.inl still)).trans same
    · have same := second.flights number (Or.inr works)
      have still : middle.current? number = some uploadId := by rw [current?, ← same]; exact works
      exact same.trans (first.flights number (Or.inr still))

/-- What the identifier leads to is as it was. -/
theorem find (preserves : Preserves uploadId before after) (named : before.Named) :
    after.coordinator.find uploadId = before.coordinator.find uploadId := by
  have tracked : after.coordinator.tracked.get? uploadId = before.coordinator.tracked.get? uploadId :=
    preserves.tracked
  unfold Coordinator.find
  rw [tracked]
  cases leads : before.coordinator.tracked.get? uploadId with
  | none => rfl
  | some place =>
    dsimp only
    rw [preserves.sessions place (named.tracked uploadId place leads)]

end Preserves

end System

/-! ### Parts of calls on other uploads -/

section Parts

variable {now : Timestamp} {books after : Coordinator} {call : Call} {flight : Option Flight}
  {waits : Option Pending} {uploadId : String} {place : SessionId}

/-- A part of a call on other uploads leaves a session that belongs to the upload as it is. -/
theorem Part.session?_of_spares (part : Part now books call flight after waits)
    (before : ∀ held ∈ flight, held.pending.upload ≠ uploadId)
    (later : ∀ pending ∈ waits, pending.upload ≠ uploadId)
    (held : ∀ held ∈ flight, ∀ binding ∈ held.pending.bindings, books.Names binding.1 binding.2)
    (taken : ∀ pending ∈ waits, ∀ binding ∈ pending.bindings, books.Names binding.1 binding.2)
    (names : books.Names uploadId place) : after.session? place = books.session? place := by
  -- the session that a call has in hand belongs to another upload, so it is another session
  have differs {other : String} {number : SessionId} (isOther : other ≠ uploadId)
      (otherNames : books.Names other number) : number ≠ place := by
    rintro rfl
    exact isOther (otherNames.unique names)
  cases part with
  | ends | storeBegins | mergeBegins | mergeContinues => rfl
  | cancelContinues | readBegins | readContinues | sweepContinues => rfl
  | records | completes | cancelEnds =>
    exact Coordinator.session?_modify_of_ne (differs (before _ rfl) (held _ rfl _ List.mem_cons_self))
  | cancelBegins | sweepBegins =>
    exact Coordinator.session?_modify_of_ne (differs (later _ rfl) (taken _ rfl _ List.mem_cons_self))
  | sweepTurns =>
    have released := differs (before _ rfl) (held _ rfl _ List.mem_cons_self)
    have begun := differs (later _ rfl) (taken _ rfl _ List.mem_cons_self)
    exact (Coordinator.session?_modify_of_ne begun).trans (Coordinator.session?_release_of_ne released _)
  | sweepEnds =>
    exact Coordinator.session?_release_of_ne
      (differs (before _ rfl) (held _ rfl _ List.mem_cons_self)) _

/-- A part of a call on other uploads leaves the identifier where it leads. -/
theorem Part.tracked_of_spares (part : Part now books call flight after waits)
    (before : ∀ held ∈ flight, held.pending.upload ≠ uploadId) :
    after.tracked.get? uploadId = books.tracked.get? uploadId := by
  cases part with
  | ends | storeBegins | mergeBegins | mergeContinues => rfl
  | cancelContinues | readBegins | readContinues | sweepContinues => rfl
  | records | completes | cancelBegins | cancelEnds | sweepBegins => rfl
  | sweepTurns => exact Coordinator.get?_tracked_release (before _ rfl) _
  | sweepEnds => exact Coordinator.get?_tracked_release (before _ rfl) _

end Parts

/-! ### Events on other uploads -/

namespace System

variable {system after : System} {uploadId : String} {event : Event}

theorem not_current?_of_begin {call : Call} (spares : system.Spares uploadId event)
    (opens : event.call? = some call) : (system.next event).current? system.begun ≠ some uploadId := by
  intro works
  cases event with
  | tick | announce | serve | resume => cases opens
  | begin made => exact spares (List.mem_append_right _ (Option.mem_toList.2 works))
  | sweep order => exact spares (Option.mem_toList.2 works)

theorem not_current?_of_serve {number : Nat} {fate : Fate}
    (spares : system.Spares uploadId (.serve number fate)) : system.current? number ≠ some uploadId :=
  fun works => spares (Option.mem_toList.2 works)

theorem not_current?_of_resume {number : Nat} (spares : system.Spares uploadId event)
    (resumes : event = .resume number) :
    system.current? number ≠ some uploadId ∧ (system.next event).current? number ≠ some uploadId := by
  subst resumes
  exact ⟨fun works => spares (List.mem_append_left _ (Option.mem_toList.2 works)),
    fun works => spares (List.mem_append_right _ (Option.mem_toList.2 works))⟩

/-- What is true of every system that can be reached and keeps uploads apart. -/
structure Orders (system : System) : Prop where
  named : system.Named
  tidy : system.Tidy
  coherent : system.Coherent
  sound : system.Sound

namespace Orders

theorem initial (config : UploadConfig) (store : Memory) (clock : Timestamp) :
    (System.initial config store clock).Orders :=
  ⟨.initial .., .initial .., .initial .., .initial ..⟩

theorem next (orders : system.Orders) (event : Event) : (system.next event).Orders :=
  ⟨orders.named.next event, orders.tidy.next event, orders.coherent.next event, orders.sound.next event⟩

theorem run (orders : system.Orders) (events : List Event) : (system.run events).Orders :=
  Obeys.keeps (fun orders _ => orders.next _) orders (obeys_lawless system events)

/-- The chunks of an upload are as they were after an event on other uploads. -/
theorem chunk?_of_spares (orders : system.Orders) (valid : isValidId uploadId)
    (spares : system.Spares uploadId event) (index : Nat) :
    (system.next event).chunk? uploadId index = system.chunk? uploadId index := by
  rcases orders.tidy.chunk?_next valid index event with
    same | ⟨number, fate, rfl, ⟨data, ⟨call, place, waits⟩, -⟩ |
      ⟨⟨⟨call, pending, answer⟩, duty, flies, works, rfl⟩, -⟩⟩
  · exact same
  · refine absurd ?_ (not_current?_of_serve spares)
    rw [current?, waits]
    rfl
  · refine absurd ?_ (not_current?_of_serve spares)
    rw [current?, flies]
    cases pending with
    | store | merge | read => cases works
    | cancel | sweep =>
      cases works
      rfl

/-- A part of a call that works on other uploads leaves an upload as it is. -/
theorem preserves_part (orders : system.Orders) {number : Nat} {call : Call} {flight : Option Flight}
    {waits : Option Pending} (flies : system.flights number = flight)
    (part : Part system.clock system.coordinator call flight after.coordinator waits)
    (becomes : after.flights =
      Function.update system.flights number (waits.map fun pending => { call, pending }))
    (stored : after.store = system.store) (before : system.current? number ≠ some uploadId)
    (later : after.current? number ≠ some uploadId) : Preserves uploadId system after := by
  have idle : ∀ held ∈ flight, held.pending.upload ≠ uploadId := by
    rintro held ⟨⟩ rfl
    exact before (by rw [current?, flies]; rfl)
  have idleAfter : ∀ pending ∈ waits, pending.upload ≠ uploadId := by
    rintro pending ⟨⟩ rfl
    exact later (by rw [current?, becomes, Function.update_self]; rfl)
  have held : ∀ held ∈ flight, ∀ binding ∈ held.pending.bindings,
      system.coordinator.Names binding.1 binding.2 := by
    rintro held ⟨⟩
    exact orders.named.held number held flies
  have taken : ∀ pending ∈ waits, ∀ binding ∈ pending.bindings,
      system.coordinator.Names binding.1 binding.2 := by
    rintro pending ⟨⟩ binding member
    rcases part.bindings member with leads | ⟨flight, isFlight, among⟩
    · exact orders.named.tracked _ _ leads
    · exact held flight isFlight binding among
  refine ⟨part.tracked_of_spares idle, fun place => part.session?_of_spares idle idleAfter held taken,
    fun index => congrArg (fun store => store.blobs.get? (chunkPath uploadId index)) stored, fun other works => ?_⟩
  rw [becomes]
  refine Function.update_of_ne ?_ ..
  rintro rfl
  exact works.elim before later

/-- An event on other uploads leaves an upload as it is. -/
theorem preserves_next (orders : system.Orders) (valid : isValidId uploadId)
    (spares : system.Spares uploadId event) : Preserves uploadId system (system.next event) := by
  have chunks := orders.chunk?_of_spares valid spares
  have begun {call : Call} (opens : event.call? = some call) := not_current?_of_begin spares opens
  have resumed {number : Nat} (resumes : event = .resume number) := not_current?_of_resume spares resumes
  have moves := system.move event
  generalize system.next event = after at moves chunks begun resumed
  cases moves with
  | idles => exact .refl ..
  | ticks => exact ⟨rfl, fun _ _ => rfl, chunks, fun _ _ => rfl⟩
  | announces user announced =>
    refine ⟨?_, fun place names => ?_, chunks, fun _ _ => rfl⟩
    · rcases system.coordinator.announce_cases user announced with same | ⟨equal, -⟩
      · exact congrArg (·.tracked.get? uploadId) same
      · refine (congrArg (·.1.tracked.get? uploadId) equal).trans (Coordinator.get?_tracked_track.trans ?_)
        exact if_neg fun same => spares (List.mem_singleton.2 same.symm)
    · rcases system.coordinator.announce_cases user announced with same | ⟨equal, -⟩
      · exact congrArg (·.session? place) same
      · obtain ⟨session, found, -⟩ := names
        refine (congrArg (·.1.session? place) equal).trans (Coordinator.session?_track.trans (if_neg ?_))
        exact Nat.ne_of_lt (Coordinator.lt_size_of_session? found)
  | begins opens part =>
    have fresh := orders.coherent.fresh system.begun (Nat.le_refl _)
    exact orders.preserves_part fresh part rfl rfl (by rw [current?, fresh]; nofun) (begun opens)
  | @serves number fate call pending waits =>
    refine ⟨rfl, fun _ _ => rfl, chunks, fun other works => Function.update_of_ne ?_ ..⟩
    rintro rfl
    have idle := not_current?_of_serve spares
    refine idle (works.elim id fun later => ?_)
    unfold current? at later ⊢
    dsimp only at later
    rw [Function.update_self] at later
    rw [waits]
    exact later
  | resumes answered part =>
    obtain ⟨before, later⟩ := resumed rfl
    exact orders.preserves_part answered part rfl rfl before later

/-- Events on other uploads leave an upload as it is. -/
theorem preserves_run (orders : system.Orders) (valid : isValidId uploadId) {events : List Event}
    (obeys : system.Obeys (Spares uploadId) events) : Preserves uploadId system (system.run events) := by
  induction events generalizing system with
  | nil => exact .refl ..
  | cons event rest inductionHypothesis =>
    exact (orders.preserves_next valid obeys.1).trans (inductionHypothesis (orders.next event) obeys.2)

end Orders

/-- A call on an upload works on that upload alone. -/
theorem Coherent.upload_of_call (coherent : system.Coherent) {number : Nat} {flight : Flight}
    (flies : system.flights number = some flight) (isAbout : flight.call.uploadId? = some uploadId) :
    flight.pending.upload = uploadId := by
  have stands := coherent.stands number flight flies
  obtain ⟨call, pending, answer⟩ := flight
  cases pending with
  | store | merge | read =>
    cases stands
    exact Option.some.inj isAbout
  | cancel other place cleanup =>
    obtain ⟨user, rfl⟩ := stands
    exact Option.some.inj isAbout
  | sweep started other place cleanup waiting report =>
    cases stands
    cases isAbout

/-- Whatever the calls do between their requests, each of them waits for a request about a chunk of its own
upload, or about the list of these chunks, and is answered by what the store holds for that upload alone.
Events on other uploads leave an upload as it is, and its session with it. Chunks and directories are named
canonically, different chunks differ in their names, and the list of an upload shows its chunks and nothing
else. -/
theorem uploads_isolated (config : UploadConfig) {store : Memory} (chunks : HoldsChunks store)
    (clock : Timestamp) (events : List Event) :
    let system := (initial config store clock).run events
    (∀ number flight, system.flights number = some flight →
      isValidId flight.pending.upload ∧
      (∀ uploadId, flight.call.uploadId? = some uploadId → flight.pending.upload = uploadId) ∧
      IsAbout flight.pending.upload flight.pending.request ∧
      ∀ other, HoldsChunks other → Agree flight.pending.upload system.store other →
        (system.store.answer flight.pending.request).2 = (other.answer flight.pending.request).2) ∧
    (∀ uploadId later, isValidId uploadId → system.Obeys (Spares uploadId) later →
      Preserves uploadId system (system.run later) ∧
      (system.run later).coordinator.find uploadId = system.coordinator.find uploadId) ∧
    ∀ uploadId, isValidId uploadId →
      canonical (storagePath uploadId) = .ok (storagePath uploadId) ∧
      (∀ index, canonical (chunkPath uploadId index) = .ok (chunkPath uploadId index)) ∧
      (∀ other index position, isValidId other → chunkPath uploadId index = chunkPath other position →
        uploadId = other ∧ index = position) ∧
      ∃ paths : List String, (system.store.answer (.list (storagePath uploadId))).2 = .ok paths ∧
        paths.Nodup ∧ ∀ path, path ∈ paths ↔
          IsChunkOf uploadId path ∧ ∃ data, system.store.blobs.get? path = some data := by
  intro system
  have orders : system.Orders := (Orders.initial config store clock).run events
  have confined : system.Confined := .run (.initial config chunks clock) (.initial ..) (.initial ..) events
  refine ⟨fun number flight flies => ?_, fun uploadId later valid obeys => ?_, fun uploadId valid => ?_⟩
  · have valid := orders.tidy.valid number flight flies _ flight.pending.upload_mem_uploadIds
    have about := confined.isAbout orders.tidy flies
    exact ⟨valid, fun uploadId isOn => orders.coherent.upload_of_call flies isOn, about,
      fun other alsoChunks agree => about.answer_congr valid confined.stored alsoChunks agree⟩
  · have preserves := orders.preserves_run valid obeys
    exact ⟨preserves, preserves.find orders.named⟩
  · refine ⟨canonical_storagePath valid, fun index => canonical_chunkPath valid,
      fun other index position alsoValid => (chunkPath_inj valid alsoValid).1,
      system.store.list (storagePath uploadId), ?_, Memory.nodup_list .., fun path => ?_⟩
    · simp only [Memory.answer, canonical_storagePath valid, Except.map]
    · exact confined.stored.mem_list valid

/-- While an upload whose identifier begins like that of another one is cancelled and its chunk is removed,
the other one keeps its session and its chunk. -/
theorem uploads_isolated_cancelled :
    let store : Memory := { blobs := (∅ : Table String ByteArray).insert (chunkPath "a" 0) "x".toUTF8 }
    let events : List Event :=
      [.announce 1 ⟨"a", "f", 1, 1⟩, .announce 1 ⟨"a.b", "f", 1, 1⟩,
        .begin (.store "a.b" 0 "y".toUTF8), .serve 0 .answered, .resume 0]
    let later : List Event :=
      [.begin (.cancel "a.b" 1), .serve 1 .answered, .resume 1, .serve 1 .answered, .resume 1]
    let system := (initial {} store ⟨0⟩).run events
    HoldsChunks store ∧ system.Obeys (Spares "a") later ∧
      system.chunk? "a.b" 0 = some "y".toUTF8 ∧ (system.run later).chunk? "a.b" 0 = none ∧
      Preserves "a" system (system.run later) := by
  intro store events later system
  have chunks : HoldsChunks store := by
    intro path data there
    rw [Table.get?_insert] at there
    split at there
    · next same => exact ⟨"a", by decide +kernel, 0, by decide, same.symm⟩
    · cases there
  have spares : system.Obeys (Spares "a") later := by decide +kernel
  have there : system.chunk? "a.b" 0 = some "y".toUTF8 := by decide +kernel
  have gone : (system.run later).chunk? "a.b" 0 = none := by decide +kernel
  exact ⟨chunks, spares, there, gone,
    ((uploads_isolated {} chunks ⟨0⟩ events).2.1 "a" later (by decide +kernel) spares).1⟩

end System

end Community.Upload
