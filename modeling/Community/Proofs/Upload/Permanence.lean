/-
This file proves when a completed upload stays as it is. A completed session keeps its place until its
identifier is announced again, and no chunk is accepted for it any more. But a chunk that was accepted before
the completion may still be on its way to the store. When it arrives it replaces the one that was there,
although its call is refused afterwards. If nothing of that kind arrives, all reads return the same bytes. If
something of that kind arrives, a read after it returns other bytes than a read before it.
-/

import Community.Proofs.Upload.Orderly
import Community.Proofs.Upload.Reading

namespace Community.Upload

open Community.Blob

/-- The chunk of an upload that a call waits to see written. -/
def Flight.waiting? (uploadId : String) : Flight → Option (Nat × ByteArray)
  | ⟨_, .store other _ index data, none⟩ => if other = uploadId then some (index, data) else none
  | _ => none

namespace System

/-- The completed session to which the identifier leads. -/
def completed? (system : System) (uploadId : String) : Option Session :=
  ((system.place? uploadId).bind system.coordinator.session?).filter (·.status = .completed)

/-- Are all chunks of the completed upload there? -/
def IsWhole (system : System) (uploadId : String) : Prop :=
  ∀ session ∈ system.completed? uploadId, ∀ index < session.totalChunks,
    (system.chunk? uploadId index).isSome

instance (system : System) (uploadId : String) : Decidable (system.IsWhole uploadId) :=
  inferInstanceAs (Decidable (∀ session ∈ _, ∀ index < _, _))

/-- No announcement of the identifier is accepted. -/
def Unannounced (uploadId : String) (system : System) : Event → Prop
  | .announce user announced =>
    announced.uploadId = uploadId →
      (system.coordinator.announce user announced system.clock).2.isOk = false
  | _ => True

/-- A chunk of the completed upload that reaches the store is the one that was there. -/
def Sealed (uploadId : String) (system : System) : Event → Prop
  | .serve number fate =>
    fate.reaches → ∀ session ∈ system.completed? uploadId,
      ∀ chunk ∈ (system.flights number).bind (·.waiting? uploadId),
        chunk.1 < session.totalChunks → system.chunk? uploadId chunk.1 = some chunk.2
  | _ => True

/-- The clock does not go back, the identifier is not announced again, and no late chunk replaces another. -/
def LeftAlone (uploadId : String) (system : System) (event : Event) : Prop :=
  system.Forward event ∧ system.Unannounced uploadId event ∧ system.Sealed uploadId event

instance (uploadId : String) (system : System) :
    (event : Event) → Decidable (system.Unannounced uploadId event)
  | .announce _ _ => inferInstanceAs (Decidable (_ → _))
  | .tick _ | .begin _ | .sweep _ | .serve _ _ | .resume _ => .isTrue trivial

instance (uploadId : String) (system : System) :
    (event : Event) → Decidable (system.Sealed uploadId event)
  | .serve _ _ => inferInstanceAs (Decidable (_ → ∀ session ∈ _, ∀ chunk ∈ _, _ → _))
  | .tick _ | .announce _ _ | .begin _ | .sweep _ | .resume _ => .isTrue trivial

instance (uploadId : String) (system : System) (event : Event) :
    Decidable (system.LeftAlone uploadId event) :=
  inferInstanceAs (Decidable (_ ∧ _ ∧ _))

/-! ### A completed session keeps its place -/

variable {system : System} {event : Event} {uploadId : String} {session : Session}

theorem completed?_eq_some :
    system.completed? uploadId = some session ↔
      ∃ place, system.coordinator.find uploadId = .ok (place, session) ∧
        session.status = .completed := by
  unfold completed?
  rw [Option.filter_eq_some_iff, Option.bind_eq_some_iff]
  constructor
  · rintro ⟨⟨place, leads, found⟩, completed⟩
    exact ⟨place, Coordinator.find_eq_ok.2 ⟨leads, found⟩, of_decide_eq_true completed⟩
  · rintro ⟨place, finds, completed⟩
    obtain ⟨leads, found⟩ := Coordinator.find_eq_ok.1 finds
    exact ⟨⟨place, leads, found⟩, decide_eq_true completed⟩

theorem totalChunks_of_find (complete : system.completed? uploadId = some session)
    {place : SessionId} {other : Session}
    (finds : system.coordinator.find uploadId = .ok (place, other)) :
    other.totalChunks = session.totalChunks := by
  obtain ⟨here, alsoFinds, -⟩ := completed?_eq_some.1 complete
  cases finds.symm.trans alsoFinds
  rfl

theorem place?_next (order : system.InOrder) (unannounced : system.Unannounced uploadId event)
    {place : SessionId} (leads : system.place? uploadId = some place)
    (found : system.coordinator.session? place = some session)
    (completed : session.status = .completed) :
    (system.next event).place? uploadId = some place := by
  have moves := system.move event
  generalize system.next event = after at moves
  cases moves with
  | idles | ticks | serves => exact leads
  | announces user announced =>
    rcases system.coordinator.announce_cases user announced with same | ⟨equal, -⟩
    · exact (congrArg (·.tracked.get? uploadId) same).trans leads
    · have other : announced.uploadId ≠ uploadId := by
        intro same
        have refused := unannounced same
        rw [equal] at refused
        cases refused
      refine (congrArg (·.1.tracked.get? uploadId) equal).trans ?_
      dsimp only
      rw [Coordinator.get?_tracked_track]
      exact (if_neg other).trans leads
  | begins opens part => exact (part.tracked_iff fun _ none => by cases none).2 leads
  | @resumes number flight books waits answered part =>
    refine (part.tracked_iff fun duty takes same => ?_).2 leads
    obtain ⟨held, foundHeld, -, -, abandoned⟩ :=
      order.orderly.held number duty ((duty?_of_flies answered).trans takes)
    rw [same, found] at foundHeld
    cases foundHeld
    exact (Session.isAbandoned_iff.1 abandoned).2 completed

theorem completed?_next (order : system.InOrder) (unannounced : system.Unannounced uploadId event)
    (complete : system.completed? uploadId = some session) :
    ∃ after, (system.next event).completed? uploadId = some after ∧
      after.totalChunks = session.totalChunks := by
  obtain ⟨place, finds, completed⟩ := completed?_eq_some.1 complete
  obtain ⟨leads, found⟩ := Coordinator.find_eq_ok.1 finds
  obtain ⟨after, foundAfter, evolves⟩ := system.grows_next event place session found
  have leadsAfter := place?_next order unannounced leads found completed
  have findsAfter := Coordinator.find_eq_ok.2 ⟨leadsAfter, foundAfter⟩
  exact ⟨after, completed?_eq_some.2 ⟨place, findsAfter, evolves.completed completed⟩,
    evolves.totalChunks⟩

theorem Tidy.isValidId_of_completed? (tidy : system.Tidy)
    (complete : system.completed? uploadId = some session) : isValidId uploadId := by
  obtain ⟨place, finds, -⟩ := completed?_eq_some.1 complete
  exact (tidy.tracked uploadId place (Coordinator.find_eq_ok.1 finds).1).1

theorem chunk?_refused {number : Nat} {fate : Fate} (refused : fate.reaches = false)
    (index : Nat) :
    (system.next (.serve number fate)).chunk? uploadId index = system.chunk? uploadId index := by
  have moves := system.move (.serve number fate)
  generalize system.next (.serve number fate) = after at moves
  cases moves with
  | idles => rfl
  | begins opens part => cases opens
  | serves waits =>
    unfold chunk?
    rw [Fate.fst_meet, refused]
    rfl

theorem writes_iff_waiting? {number index : Nat} {data : ByteArray} :
    system.Writes number uploadId index data ↔
      (system.flights number).bind (·.waiting? uploadId) = some (index, data) := by
  constructor
  · rintro ⟨call, place, waits⟩
    rw [waits]
    exact if_pos rfl
  · intro waiting
    obtain ⟨⟨call, pending, answer⟩, flies, waits⟩ := Option.bind_eq_some_iff.1 waiting
    unfold Flight.waiting? at waits
    split at waits
    · next equal =>
      cases equal
      split at waits
      · next same =>
        cases waits
        exact ⟨call, _, same ▸ flies⟩
      · cases waits
    · cases waits

/-- A chunk that reaches the store is there afterwards, and every other one is as it was. -/
theorem chunk?_of_reaches (valid : isValidId uploadId) {number index : Nat} {data : ByteArray}
    {fate : Fate} (writes : system.Writes number uploadId index data) (reaches : fate.reaches)
    (other : Nat) :
    (system.next (.serve number fate)).chunk? uploadId other =
      if index = other then some data else system.chunk? uploadId other := by
  obtain ⟨call, place, waits⟩ := writes
  have puts : (system.store.answer (.put (chunkPath uploadId index) data)).1 =
      ⟨system.store.blobs.insert (chunkPath uploadId index) data⟩ := by
    unfold Memory.answer
    dsimp only
    rw [canonical_chunkPath valid]
  rw [next_serve waits]
  unfold chunk?
  dsimp only [Pending.request]
  rw [Fate.fst_meet, if_pos reaches, puts, Table.get?_insert]
  simp only [chunkPath_inj valid valid, true_and]

/-- Whatever chunk of a completed upload is in the store afterwards was there before. -/
theorem chunk?_of_next (tidy : system.Tidy) (complete : system.completed? uploadId = some session)
    (sealed : system.Sealed uploadId event) {index : Nat} (within : index < session.totalChunks)
    {chunk : ByteArray} (there : (system.next event).chunk? uploadId index = some chunk) :
    system.chunk? uploadId index = some chunk := by
  rcases tidy.chunk?_next (tidy.isValidId_of_completed? complete) index event with
    same | ⟨number, fate, rfl, ⟨data, writes, written⟩ | ⟨-, removed⟩⟩
  · exact same.symm.trans there
  · cases reaches : fate.reaches with
    | false => exact (chunk?_refused reaches index).symm.trans there
    | true =>
      rw [written] at there
      have waiting := writes_iff_waiting?.1 writes
      exact (sealed reaches session complete _ waiting within).trans there
  · cases removed.symm.trans there

/-! ### Reads of a completed upload -/

/-- The upload is completed with so many chunks, and the calls that count gather what is allowed of it. -/
structure Serves (system : System) (Counts : Nat → Prop) (uploadId : String) (total : Nat)
    (Allowed : Nat → ByteArray → Prop) : Prop where
  order : system.InOrder
  tidy : system.Tidy
  complete : ∃ session, system.completed? uploadId = some session ∧ session.totalChunks = total
  gathering : system.Gathering Counts uploadId total Allowed

variable {Counts : Nat → Prop} {total : Nat} {Allowed : Nat → ByteArray → Prop}

theorem Serves.next (serves : system.Serves Counts uploadId total Allowed)
    (alone : system.LeftAlone uploadId event) :
    (system.next event).Serves Counts uploadId total Allowed := by
  obtain ⟨forward, unannounced, sealed⟩ := alone
  obtain ⟨session, complete, rfl⟩ := serves.complete
  obtain ⟨after, completeAfter, sameTotal⟩ := completed?_next serves.order unannounced complete
  exact {
    order := serves.order.next forward
    tidy := serves.tidy.next event
    complete := ⟨after, completeAfter, sameTotal⟩
    gathering := {
      gathers := serves.gathering.gathers_next serves.tidy event
      allowed := fun index chunk within there => serves.gathering.allowed index chunk within
        (chunk?_of_next serves.tidy complete sealed within there)
      begins := fun _ _ _ finds _ => (totalChunks_of_find completeAfter finds).trans sameTotal } }

/-- None of the calls that count is a read in progress of the upload. -/
def Unread (system : System) (Counts : Nat → Prop) (uploadId : String) : Prop :=
  ∀ number flight, system.flights number = some flight → Counts number →
    ∀ total index assembled, flight.pending ≠ .read uploadId total index assembled

theorem serves_of_complete (order : system.InOrder) (tidy : system.Tidy)
    (unread : system.Unread Counts uploadId)
    (complete : system.completed? uploadId = some session) :
    system.Serves Counts uploadId session.totalChunks fun index chunk =>
      system.chunk? uploadId index = some chunk := by
  refine ⟨order, tidy, ⟨session, complete, rfl⟩, fun number flight flies counts => ?_,
    fun _ _ _ there => there, fun _ _ _ finds _ => totalChunks_of_find complete finds⟩
  obtain ⟨call, pending, answer⟩ := flight
  cases pending with
  | store | merge | cancel | sweep => trivial
  | read other total index assembled =>
    rintro rfl
    exact absurd rfl (unread number _ flies counts total index assembled)

/-- An upload that is not completed is not read. -/
theorem Unread.next (unread : system.Unread Counts uploadId)
    (incomplete : system.completed? uploadId = none) (event : Event) :
    (system.next event).Unread Counts uploadId := by
  refine flights_next
    (fun number flight => Counts number → ∀ total index assembled,
      flight.pending ≠ .read uploadId total index assembled)
    (fun number flight flies _ => unread number flight flies) ?_
    (fun {number fate call pending} _ waits => unread number ⟨call, pending, none⟩ waits) ?_
  · intro call books pending opens part counts total index assembled isRead
    cases isRead
    cases part with
    | readBegins found completed nonempty =>
      cases incomplete.symm.trans (completed?_eq_some.2 ⟨_, found, completed⟩)
  · rintro number ⟨call, held, answer⟩ books pending flies part counts total index assembled isRead
    cases isRead
    cases part with
    | readContinues further => exact unread number _ flies counts _ _ _ rfl

theorem Unread.not_returned (unread : system.Unread Counts uploadId) (coherent : system.Coherent)
    (incomplete : system.completed? uploadId = none) {number : Nat} {bytes : ByteArray}
    (counts : Counts number) :
    (system.step event).2 ≠ some (.returned number (.read uploadId) (.ok (.assembled bytes))) := by
  intro told
  rcases step_returned told with
    ⟨-, -, ended⟩ | ⟨_, -, made⟩ | ⟨-, pending, answer, flies, -⟩
  · obtain ⟨place, session, found, completed, -⟩ := Coordinator.beginRead_assembled ended
    cases incomplete.symm.trans (completed?_eq_some.2 ⟨place, found, completed⟩)
  · cases made
  · have stands := coherent.stands number _ flies
    cases pending with
    | store | merge | cancel | sweep => simp [Pending.BelongsTo] at stands
    | read other total index assembled =>
      cases stands
      exact unread number _ flies counts total index assembled rfl

/-- A read that counts returns the chunks that are in the store. -/
theorem Serves.returned {later : List Event} {number : Nat} {bytes : ByteArray}
    (serves : system.Serves Counts uploadId total Allowed)
    (alone : system.Obeys (LeftAlone uploadId) later) (counts : Counts number)
    (told : .returned number (.read uploadId) (.ok (.assembled bytes)) ∈ system.notices later) :
    ∃ chunks, chunks.length = total ∧ bytes = assemble chunks ∧ AllAllowed Allowed chunks := by
  induction later generalizing system with
  | nil => cases told
  | cons event rest inductionHypothesis =>
    rcases List.mem_append.1 told with now | further
    · exact serves.gathering.returned serves.order.coherent counts (Option.mem_toList.1 now)
    · exact inductionHypothesis (serves.next alone.1) alone.2 further

theorem Unread.reads_agree {later : List Event} {first second : Nat} {bytes other : ByteArray}
    (unread : system.Unread Counts uploadId) (order : system.InOrder) (tidy : system.Tidy)
    (alone : system.Obeys (LeftAlone uploadId) later) (counts : Counts first)
    (alsoCounts : Counts second)
    (told : .returned first (.read uploadId) (.ok (.assembled bytes)) ∈ system.notices later)
    (alsoTold : .returned second (.read uploadId) (.ok (.assembled other)) ∈ system.notices later) :
    bytes = other := by
  induction later generalizing system with
  | nil => cases told
  | cons event rest inductionHypothesis =>
    -- The chunks are those of the first moment at which the upload is completed; no read is on then.
    cases complete : system.completed? uploadId with
    | some session =>
      have serves := serves_of_complete order tidy unread complete
      obtain ⟨chunks, length, rfl, all⟩ := serves.returned alone counts told
      obtain ⟨others, alsoLength, rfl, alsoAll⟩ := serves.returned alone alsoCounts alsoTold
      rw [all.unique alsoAll (fun index one two isOne isTwo => Option.some.inj (isOne.symm.trans isTwo))
        (length.trans alsoLength.symm)]
    | none =>
      have silent {number : Nat} {bytes : ByteArray} (counts : Counts number) :
          .returned number (.read uploadId) (.ok (.assembled bytes)) ∉ (system.step event).2.toList :=
        fun now => unread.not_returned order.coherent complete counts (Option.mem_toList.1 now)
      exact inductionHypothesis (unread.next complete event) (order.next alone.1.1) (tidy.next event)
        alone.2 ((List.mem_append.1 told).resolve_left (silent counts))
        ((List.mem_append.1 alsoTold).resolve_left (silent alsoCounts))

/-! ### Chunks that arrive late -/

theorem writes_of_not_sealed (broken : ¬ system.Sealed uploadId event) :
    ∃ number fate index data session, event = .serve number fate ∧ fate.reaches ∧
      system.Writes number uploadId index data ∧ system.completed? uploadId = some session ∧
      index < session.totalChunks ∧ system.chunk? uploadId index ≠ some data := by
  cases event with
  | tick | announce | begin | sweep | resume => exact absurd trivial broken
  | serve number fate =>
    by_contra none
    refine broken fun reaches session complete chunk waiting within => ?_
    by_contra differs
    exact none ⟨number, fate, chunk.1, chunk.2, session, rfl, reaches, writes_iff_waiting?.2 waiting,
      complete, within, differs⟩

/-- When all chunks of a completed upload are there and one of them is replaced by another, a read that begins
afterwards returns other bytes than one that begins before. -/
theorem readsAs_of_not_sealed (tidy : system.Tidy) (broken : ¬ system.Sealed uploadId event)
    (whole : system.IsWhole uploadId) :
    ∃ bytes other, bytes ≠ other ∧ system.ReadsAs uploadId bytes ∧
      (system.next event).ReadsAs uploadId other := by
  obtain ⟨number, fate, index, data, session, rfl, reaches, writes, complete, within, differs⟩ :=
    writes_of_not_sealed broken
  have valid := tidy.isValidId_of_completed? complete
  obtain ⟨place, finds, completed⟩ := completed?_eq_some.1 complete
  obtain ⟨chunks, enough, there⟩ := exists_allAllowed fun index within =>
    Option.isSome_iff_exists.1 (whole session complete index within)
  rw [← enough] at within
  have becomes := chunk?_of_reaches valid writes reaches
  have thereAfter := there.set ((becomes index).trans (if_pos rfl)) fun other chunk elsewhere here =>
    ((becomes other).trans (if_neg (Ne.symm elsewhere))).trans here
  have findsAfter : (system.next (.serve number fate)).coordinator.find uploadId =
      .ok (place, session) := by
    obtain ⟨call, held, waits⟩ := writes
    rw [next_serve waits]
    exact finds
  refine ⟨assemble chunks, assemble (chunks.set index data), fun same => differs ?_,
    readsAs_assemble valid finds completed enough there,
    readsAs_assemble valid findsAfter completed (List.length_set.trans enough) thereAfter⟩
  rw [there index _ (List.getElem?_eq_getElem within)]
  have exchanged : assemble (chunks.set index chunks[index]) = assemble (chunks.set index data) := by
    rw [List.set_getElem_self]
    exact same
  rw [eq_of_assemble_set within exchanged]

/-- In a stretch of a run in which an identifier is not announced again, all reads of the upload that begin and
succeed in it return the same bytes, if every chunk of the completed upload that reaches the store is the one
that is there already. The stretch that follows a completion is one of these. And it takes no less: whenever
another chunk reaches the store, a read after it returns other bytes than a read before it would have. -/
theorem completed_reads_agree (reachable : system.Reachable Forward) :
    (∀ later first second bytes other, system.Obeys (LeftAlone uploadId) later →
      system.begun ≤ first → system.begun ≤ second →
      .returned first (.read uploadId) (.ok (.assembled bytes)) ∈ system.notices later →
      .returned second (.read uploadId) (.ok (.assembled other)) ∈ system.notices later →
      bytes = other) ∧
    ∀ event, ¬ system.Sealed uploadId event → system.IsWhole uploadId →
      ∃ bytes other, bytes ≠ other ∧ system.ReadsAs uploadId bytes ∧
        (system.next event).ReadsAs uploadId other := by
  have order := InOrder.of_reachable reachable
  have tidy := Tidy.of_reachable reachable
  have unread : system.Unread (system.begun ≤ ·) uploadId := fun number flight flies later =>
    absurd (order.coherent.lt_begun flies) (Nat.not_lt.2 later)
  refine ⟨fun later first second bytes other alone since alsoSince told alsoTold => ?_,
    fun event broken whole => readsAs_of_not_sealed tidy broken whole⟩
  exact unread.reads_agree order tidy alone since alsoSince told alsoTold

/-- A chunk is sent twice, and the second copy arrives when the upload is completed and is being read. Another
user announces the identifier in vain, and a sweep goes by. Had the second one been another chunk, a read
would have returned other bytes after it arrived. -/
theorem completed_reads_agree_repeated :
    let completes (second : String) : List Event :=
      [.announce 1 ⟨"u", "f", 1, 1⟩, .begin (.store "u" 0 "a".toUTF8), .serve 0 .answered, .resume 0,
        .begin (.store "u" 0 second.toUTF8), .begin (.merge "u"), .serve 2 .answered, .resume 2]
    let system := (initial {} {} ⟨0⟩).run (completes "a")
    let later : List Event :=
      [.begin (.read "u"), .serve 3 .answered, .serve 1 .answered, .resume 3, .resume 1,
        .announce 2 ⟨"u", "f", 1, 1⟩, .tick ⟨1000⟩, .sweep [], .begin (.read "u"), .serve 5 .answered,
        .resume 5]
    let disturbed := (initial {} {} ⟨0⟩).run (completes "b")
    system.Obeys (LeftAlone "u") later ∧
      .returned 3 (.read "u") (.ok (.assembled "a".toUTF8)) ∈ system.notices later ∧
      (∀ bytes, .returned 5 (.read "u") (.ok (.assembled bytes)) ∈ system.notices later →
        bytes = "a".toUTF8) ∧
      ∃ bytes other, bytes ≠ other ∧ disturbed.ReadsAs "u" bytes ∧
        (disturbed.next (.serve 1 .answered)).ReadsAs "u" other := by
  intro completes system later disturbed
  have reachable : system.Reachable Forward := ⟨_, _, _, _, by decide +kernel, rfl⟩
  have alone : system.Obeys (LeftAlone "u") later := by decide +kernel
  have told : .returned 3 (.read "u") (.ok (.assembled "a".toUTF8)) ∈ system.notices later := by
    decide +kernel
  have since : system.begun ≤ 3 := by decide +kernel
  have alsoSince : system.begun ≤ 5 := by decide +kernel
  have alsoReachable : disturbed.Reachable Forward := ⟨_, _, _, _, by decide +kernel, rfl⟩
  have broken : ¬ disturbed.Sealed "u" (.serve 1 .answered) := by decide +kernel
  have whole : disturbed.IsWhole "u" := by decide +kernel
  exact ⟨alone, told,
    fun bytes alsoTold =>
      (completed_reads_agree reachable).1 later 5 3 _ _ alone alsoSince since alsoTold told,
    (completed_reads_agree alsoReachable).2 _ broken whole⟩

/-- A chunk is sent anew before the upload is completed, and arrives after it has been read. Its call is refused,
and yet the next read returns other bytes. -/
theorem completed_reads_differ :
    let start := initial { publicBaseUrl := "" } {} ⟨0⟩
    let events : List Event :=
      [.announce 1 ⟨"u", "f", 1, 1⟩, .begin (.store "u" 0 "a".toUTF8), .serve 0 .answered, .resume 0,
        .begin (.store "u" 0 "b".toUTF8), .begin (.merge "u"), .serve 2 .answered]
    let system := start.run (events ++ [.resume 2])
    let later : List Event :=
      [.begin (.read "u"), .serve 3 .answered, .resume 3, .serve 1 .answered, .resume 1,
        .begin (.read "u"), .serve 4 .answered, .resume 4]
    start.Obeys (fun system event => system.Forward event ∧ system.Undisturbed event)
        (events ++ [.resume 2] ++ later) ∧
      ((start.run events).step (.resume 2)).2 = some (.returned 2 (.merge "u")
        (.ok (.merged ⟨"chunks/u", "/chunks/u", 1⟩))) ∧
      system.Obeys (Unannounced "u") later ∧ system.begun = 3 ∧
      .returned 3 (.read "u") (.ok (.assembled "a".toUTF8)) ∈ system.notices later ∧
      .returned 1 (.store "u" 0 "b".toUTF8) (.error (Refusal.wrongStatus "u" .completed)) ∈
        system.notices later ∧
      .returned 4 (.read "u") (.ok (.assembled "b".toUTF8)) ∈ system.notices later := by
  decide +kernel

end System

end Community.Upload
