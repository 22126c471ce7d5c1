/-
This file proves that the books promise no chunk that the store does not hold, as long as a sweep runs without
other calls inside it and the clock does not go back. What makes a sweep safe then is that the sessions it works
on, now or later, stay the ones to which their identifiers lead. So chunks are only ever removed for a session
that is tracked and abandoned, and none goes that belongs to a session that is live or completed. A call that
writes a chunk, and a call that looks chunks up, can rely on what they found when they come to record it.
-/

import Community.Proofs.Upload.Lifecycle
import Community.Proofs.Upload.Permanence
import Community.Proofs.Upload.SweepSafety

namespace Community.Upload

open Community.Blob

/-- The identifiers and sessions on which a duty works, now or later. -/
def Duty.bindings (duty : Duty) : List (String × SessionId) :=
  (duty.uploadId, duty.session) :: (duty.round.map Prod.snd).getD []

namespace System

/-- The clock does not go back, and a sweep in progress is not disturbed. -/
def Exclusive (system : System) (event : Event) : Prop :=
  system.Forward event ∧ system.Undisturbed event

instance (system : System) (event : Event) : Decidable (system.Exclusive event) :=
  inferInstanceAs (Decidable (_ ∧ _))

/-- The identifiers of a duty are different, and each of them leads to its session. -/
structure Seats (system : System) (duty : Duty) : Prop where
  leads : ∀ binding ∈ duty.bindings, system.place? binding.1 = some binding.2
  distinct : (duty.bindings.map Prod.fst).Nodup

/-- Every call that removes blobs works on sessions to which their identifiers lead. -/
def Seated (system : System) : Prop :=
  ∀ number duty, system.duty? number = some duty → system.Seats duty

end System

/-! ### Calls that remove blobs -/

theorem TakesUp.bindings {books : Coordinator} {started : Timestamp} {uploadId : String}
    {number : SessionId} {queue waiting : List (String × SessionId)}
    (taken : TakesUp books started queue uploadId number waiting) :
    (⟨uploadId, number, some (started, waiting)⟩ : Duty).bindings <:+ queue :=
  taken.suffix

/-- What a call works on after its first part is tracked. -/
theorem Part.seats {now : Timestamp} {books after : Coordinator} {call : Call} {pending : Pending}
    {duty : Duty} (part : Part now books call none after (some pending))
    (works : pending.duty? = some duty) :
    (∀ binding ∈ duty.bindings, books.tracked.get? binding.1 = some binding.2) ∧
      (duty.bindings.map Prod.fst).Nodup := by
  cases part with
  | storeBegins | mergeBegins | readBegins => cases works
  | cancelBegins found pending free =>
    cases works
    refine ⟨fun binding member => ?_, by simp [Duty.bindings]⟩
    cases List.mem_singleton.1 member
    exact (Coordinator.find_eq_ok.1 found).1
  | @sweepBegins queue waiting uploadId number report candidates taken =>
    cases works
    have ordered : (queue.map Prod.fst).Nodup := by
      refine (candidates.map Prod.fst).nodup_iff.2 ?_
      exact books.tracked.distinct.sublist (List.filter_sublist.map Prod.fst)
    refine ⟨fun binding member => ?_, ordered.sublist (taken.bindings.sublist.map Prod.fst)⟩
    have abandoned := candidates.mem_iff.1 (taken.bindings.subset member)
    exact Table.get?_eq_some_iff.2 (List.mem_filter.1 abandoned).1

/-- What a call works on after a later part is tracked, if what it worked on before was. -/
theorem Part.seats_continued {now : Timestamp} {books after : Coordinator} {flight : Flight}
    {pending : Pending} {duty : Duty}
    (part : Part now books flight.call (some flight) after (some pending))
    (works : pending.duty? = some duty)
    (leads : ∀ before, flight.pending.duty? = some before →
      ∀ binding ∈ before.bindings, books.tracked.get? binding.1 = some binding.2)
    (distinct : ∀ before, flight.pending.duty? = some before → (before.bindings.map Prod.fst).Nodup) :
    (∀ binding ∈ duty.bindings, after.tracked.get? binding.1 = some binding.2) ∧
      (duty.bindings.map Prod.fst).Nodup := by
  obtain ⟨call, held, answer⟩ := flight
  cases part with
  | mergeContinues | readContinues => cases works
  | cancelContinues | sweepContinues => exact ⟨leads duty works, distinct duty works⟩
  | @sweepTurns _ _ uploadId _ _ _ _ _ _ _ _ _ result ended taken =>
    cases works
    obtain ⟨absent, rest⟩ := List.nodup_cons.1 (distinct _ rfl)
    refine ⟨fun binding member => ?_, rest.sublist (taken.bindings.sublist.map Prod.fst)⟩
    have queued := taken.bindings.subset member
    have differs : uploadId ≠ binding.1 := fun same =>
      absent (List.mem_map.2 ⟨binding, queued, same.symm⟩)
    exact (Coordinator.get?_tracked_release differs result).trans
      (leads _ rfl binding (List.mem_cons_of_mem _ queued))

namespace System

variable {system : System} {event : Event} {number : Nat} {duty : Duty}

theorem duty?_eq_some :
    system.duty? number = some duty ↔
      ∃ flight, system.flights number = some flight ∧ flight.pending.duty? = some duty :=
  Option.bind_eq_some_iff

/-- A call that is not a sweep works on one session. -/
theorem bindings_of_not_isSweeping (takes : system.duty? number = some duty)
    (lone : system.isSweeping number = false) : duty.bindings = [(duty.uploadId, duty.session)] := by
  obtain ⟨⟨call, pending, answer⟩, flies, works⟩ := duty?_eq_some.1 takes
  cases pending with
  | store | merge | read => cases works
  | cancel uploadId place cleanup =>
    cases works
    rfl
  | sweep started uploadId place cleanup waiting report =>
    unfold isSweeping at lone
    rw [flies] at lone
    cases lone

/-- A call other than a sweep in progress keeps its seat as long as it keeps its duty. -/
theorem Seats.next_of_lone (seats : system.Seats duty) (order : system.InOrder)
    (takes : system.duty? number = some duty) (still : (system.next event).duty? number = some duty)
    (lone : system.isSweeping number = false) : (system.next event).Seats duty where
  leads binding member := by
    have single := bindings_of_not_isSweeping takes lone
    rw [single] at member
    cases List.mem_singleton.1 member
    exact (tracked_iff_next order takes still duty.uploadId).2 (seats.leads _ List.mem_cons_self)
  distinct := seats.distinct

theorem isSweeping_eq_false (order : system.InOrder) (undisturbed : system.Undisturbed event)
    (takes : system.duty? number = some duty) (foreign : event.isOnlyOf number = false) :
    system.isSweeping number = false := by
  obtain ⟨flight, flies, -⟩ := duty?_eq_some.1 takes
  by_contra sweeping
  have only := undisturbed number (order.coherent.lt_begun flies) (Bool.not_eq_false _ ▸ sweeping)
  rw [foreign] at only
  cases only

/-- Every call that removes blobs keeps its seat or gives it up. -/
theorem Seated.next (seated : system.Seated) (order : system.InOrder)
    (undisturbed : system.Undisturbed event) : (system.next event).Seated := by
  intro number duty works
  -- a foreign event leaves a call its duty, which keeps its seat unless it is a sweep's
  by_cases foreign : system.duty? number = some duty ∧ event.isOnlyOf number = false
  · exact (seated number duty foreign.1).next_of_lone order foreign.1 works
      (isSweeping_eq_false order undisturbed foreign.1 foreign.2)
  have moves := system.move event
  generalize system.next event = after at moves works
  cases moves with
  | idles => exact seated number duty works
  | ticks now => exact ⟨(seated number duty works).leads, (seated number duty works).distinct⟩
  | announces user announced => exact absurd ⟨works, rfl⟩ foreign
  | @begins event call books waits opens part =>
    rw [duty?_of_part rfl] at works
    by_cases own : number = system.begun
    · subst own
      rw [Function.update_self] at works
      obtain ⟨pending, rfl, isDuty⟩ := Option.bind_eq_some_iff.1 works
      obtain ⟨leads, distinct⟩ := part.seats isDuty
      exact ⟨fun binding member =>
        (part.tracked_iff fun _ none => by cases none).2 (leads binding member), distinct⟩
    · rw [Function.update_of_ne own] at works
      refine absurd ⟨works, ?_⟩ foreign
      cases event <;> first | rfl | cases opens
  | @serves other fate call pending waits =>
    have same : system.duty? number = some duty := by
      rw [duty?_update rfl] at works
      by_cases own : number = other
      · subst own
        rw [Function.update_self] at works
        exact (duty?_of_flies waits).trans works
      · rwa [Function.update_of_ne own] at works
    exact ⟨(seated number duty same).leads, (seated number duty same).distinct⟩
  | @resumes other flight books waits answered part =>
    rw [duty?_of_part rfl] at works
    by_cases own : number = other
    · subst own
      rw [Function.update_self] at works
      obtain ⟨pending, rfl, isDuty⟩ := Option.bind_eq_some_iff.1 works
      have had (before : Duty) (held : flight.pending.duty? = some before) : system.Seats before :=
        seated number before ((duty?_of_flies answered).trans held)
      obtain ⟨leads, distinct⟩ := part.seats_continued isDuty (fun before held => (had before held).leads)
        fun before held => (had before held).distinct
      exact ⟨leads, distinct⟩
    · rw [Function.update_of_ne own] at works
      exact absurd ⟨works, decide_eq_false fun same => own same.symm⟩ foreign

/-- A chunk stays in the store while its identifier leads to a session that is live or completed. -/
theorem Seated.isSome_chunk?_next (seated : system.Seated) (order : system.InOrder)
    (tidy : system.Tidy) {uploadId : String} (protected_ : system.Protects uploadId) {index : Nat}
    (there : (system.chunk? uploadId index).isSome) (event : Event) :
    ((system.next event).chunk? uploadId index).isSome := by
  obtain ⟨place, leads, session, found, promises⟩ := protected_
  rcases tidy.chunk?_next (tidy.tracked uploadId place leads).1 index event with
    same | ⟨remover, fate, rfl, ⟨data, -, written⟩ | ⟨⟨flight, duty, flies, works, named⟩, -⟩⟩
  · rwa [same]
  · rw [written]
    rfl
  · -- the chunk is removed for the session to which the identifier leads, and that is abandoned
    have takes := duty?_eq_some.2 ⟨flight, flies, works⟩
    have seat := (seated remover duty takes).leads _ List.mem_cons_self
    obtain ⟨held, foundHeld, -, -, abandoned⟩ := order.orderly.held remover duty takes
    rw [named] at seat
    cases leads.symm.trans seat
    cases found.symm.trans foundHeld
    have dead := Session.isAbandoned_iff.1 abandoned
    exact (promises.elim dead.1 dead.2).elim

end System

/-! ### What the books promise -/

/-- Does the session promise the chunks that it records? -/
def Session.Promises (session : Session) (now : Timestamp) : Prop :=
  session.isLive now ∨ session.status = .completed

namespace System

/-- Does the store hold what the session promises? -/
def Backs (system : System) (session : Session) : Prop :=
  session.Promises system.clock → ∀ index ∈ session.uploaded,
    (system.chunk? session.uploadId index).isSome

/-- What can become of a session: it promises no more than the store holds, if it did so before. -/
structure Follows (system : System) (before after : Session) : Prop where
  uploadId : after.uploadId = before.uploadId
  promises : after.Promises system.clock → before.Promises system.clock
  backs : system.Backs before → system.Backs after

instance (system : System) : IsPreorder Session system.Follows where
  refl _ := ⟨rfl, id, id⟩
  trans _ _ _ earlier later :=
    ⟨later.uploadId.trans earlier.uploadId, earlier.promises ∘ later.promises,
      later.backs ∘ earlier.backs⟩

end System

/-- What a call has learned from the store is still true if its session is live: a chunk that it has written is
there, and so are those that it has looked up, if none was missing. -/
def Flight.Learned (system : System) : Flight → Prop
  | ⟨_, .store uploadId place index _, answer⟩ =>
    answer = some (.ok ()) → ∀ session, system.coordinator.session? place = some session →
      session.isLive system.clock → (system.chunk? uploadId index).isSome
  | ⟨_, .merge uploadId place total index missing, answer⟩ =>
    ∀ session, system.coordinator.session? place = some session → session.isLive system.clock →
      session.totalChunks = total ∧
        (missing = [] → ∀ other, other < index ∨ other = index ∧ answer = some (.ok true) →
          (system.chunk? uploadId other).isSome)
  | _ => True

/-- An announcement that is accepted lists the chunks of the live session to which the identifier leads, if any. -/
theorem Coordinator.live_of_mem_receipt {books : Coordinator} {user : UInt64}
    {announced : Announcement} {now : Timestamp} {receipt : Receipt} {index : Nat}
    (accepted : (books.announce user announced now).2 = .ok receipt)
    (member : index ∈ receipt.uploadedChunks) :
    ∃ place session, books.find announced.uploadId = .ok (place, session) ∧ session.isLive now ∧
      index ∈ session.uploaded := by
  unfold announce at accepted
  split at accepted
  · cases accepted
  · dsimp only at accepted
    split at accepted
    · cases accepted
      exact (List.not_mem_nil member).elim
    · next place session found =>
      split at accepted
      · cases accepted
      · split at accepted
        · cases accepted
        · split at accepted
          · next alive =>
            cases accepted
            exact ⟨place, session, found, alive, member⟩
          · cases accepted
            exact (List.not_mem_nil member).elim

namespace System

variable {system : System} {event : Event}

/-- The store holds what the books promise, and what calls in progress have learned from it. -/
structure Backed (system : System) : Prop where
  order : system.InOrder
  tidy : system.Tidy
  seated : system.Seated
  sound : system.Sound
  tracked : ∀ uploadId place session, system.coordinator.find uploadId = .ok (place, session) →
    system.Backs session
  learned : ∀ number flight, system.flights number = some flight → flight.Learned system

theorem clock_le_next (forward : system.Forward event) : system.clock ≤ (system.next event).clock := by
  have moves := system.move event
  generalize system.next event = after at moves
  cases moves with
  | ticks now => exact forward
  | idles | announces | begins | serves | resumes => exact Timestamp.le_refl _

/-- A session that is live after an event was so before, and it is the one to which its identifier leads. -/
theorem InOrder.live_of_next (order : system.InOrder) (forward : system.Forward event)
    {uploadId : String} {place : SessionId} {session : Session}
    (names : system.coordinator.Names uploadId place)
    (found : (system.next event).coordinator.session? place = some session)
    (alive : session.isLive (system.next event).clock) :
    ∃ before, system.coordinator.session? place = some before ∧ before.isLive system.clock ∧
      before.totalChunks = session.totalChunks ∧ system.Protects uploadId := by
  obtain ⟨before, was, rfl⟩ := names
  obtain ⟨same, foundSame, evolves⟩ := system.grows_next event place before was
  cases found.symm.trans foundSame
  have aliveBefore := Session.isLive_anti (clock_le_next forward) (evolves.live _ alive)
  exact ⟨before, was, aliveBefore, evolves.totalChunks.symm, place,
    order.orderly.live place before was aliveBefore, before, was, Or.inl aliveBefore⟩

namespace Backed

/-- What a call has learned stays true. -/
theorem learned_next (backed : system.Backed) (forward : system.Forward event) {flight : Flight}
    (learned : flight.Learned system)
    (names : ∀ handle ∈ flight.pending.handle?, system.coordinator.Names handle.1 handle.2) :
    flight.Learned (system.next event) := by
  obtain ⟨call, pending, answer⟩ := flight
  have kept {uploadId : String} (protected_ : system.Protects uploadId) {index : Nat}
      (there : (system.chunk? uploadId index).isSome) :
      ((system.next event).chunk? uploadId index).isSome :=
    backed.seated.isSome_chunk?_next backed.order backed.tidy protected_ there event
  cases pending with
  | cancel | read | sweep => trivial
  | store uploadId place index data =>
    intro written session found alive
    obtain ⟨before, was, aliveBefore, -, protected_⟩ :=
      backed.order.live_of_next forward (names _ rfl) found alive
    exact kept protected_ (learned written before was aliveBefore)
  | merge uploadId place total index missing =>
    intro session found alive
    obtain ⟨before, was, aliveBefore, sameTotal, protected_⟩ :=
      backed.order.live_of_next forward (names _ rfl) found alive
    obtain ⟨isTotal, there⟩ := learned before was aliveBefore
    exact ⟨sameTotal.symm.trans isTotal, fun none other reached =>
      kept protected_ (there none other reached)⟩

end Backed

/-- What a call has learned when it turns to the store with its first request, or with another one. -/
theorem learned_of_part {books : Coordinator} {call : Call} {flight : Option Flight}
    {pending : Pending} (part : Part system.clock system.coordinator call flight books (some pending))
    (learned : ∀ held ∈ flight, held.Learned system) : Flight.Learned system { call, pending } := by
  cases part with
  | cancelBegins | cancelContinues | readBegins | readContinues => trivial
  | sweepBegins | sweepContinues | sweepTurns => trivial
  | storeBegins found accepts inRange => nofun
  | mergeBegins found accepts =>
    intro session foundSame alive
    cases (Coordinator.find_eq_ok.1 found).2.symm.trans foundSame
    exact ⟨rfl, fun _ other reached => by simp at reached⟩
  | @mergeContinues _ uploadId place total index missing answer further =>
    intro session found alive
    obtain ⟨isTotal, there⟩ := learned _ rfl session found alive
    refine ⟨isTotal, fun none other reached => ?_⟩
    have all : missing = [] ∧ answer = .ok true := by
      by_cases present : answer = .ok true
      · rw [if_pos present] at none
        exact ⟨none, present⟩
      · rw [if_neg present] at none
        simp at none
    refine there all.1 other ?_
    rcases reached with before | ⟨-, answered⟩
    · rcases Nat.lt_succ_iff_lt_or_eq.1 before with earlier | same
      · exact Or.inl earlier
      · exact Or.inr ⟨same, congrArg some all.2⟩
    · cases answered

/-- The store answers that a chunk is there only if it is. -/
theorem isSome_chunk?_of_contains {uploadId : String} (valid : isValidId uploadId) {index : Nat}
    {fate : Fate}
    (answered : (fate.meet system.store (.contains (chunkPath uploadId index))).2 = .ok true) :
    (system.chunk? uploadId index).isSome := by
  cases fate with
  | refused | lost => cases answered
  | answered =>
    have contained : (system.store.answer (.contains (chunkPath uploadId index))).2 = .ok true :=
      answered
    dsimp only [Memory.answer] at contained
    rw [canonical_chunkPath valid] at contained
    exact Except.ok.inj contained

namespace Backed

/-- What a call learns from an answer of the store. -/
theorem learned_serve (backed : system.Backed) {number : Nat} {fate : Fate} {call : Call}
    {pending : Pending} (waits : system.flights number = some ⟨call, pending, none⟩)
    (forward : system.Forward (.serve number fate)) :
    Flight.Learned (system.next (.serve number fate))
      ⟨call, pending, some (fate.meet system.store pending.request).2⟩ := by
  have valid := backed.tidy.valid number _ waits
  have names := backed.order.holding number _ waits
  cases pending with
  | cancel | read | sweep => trivial
  | store uploadId place index data =>
    intro written session found alive
    have reaches : fate.reaches := by
      cases fate with
      | refused => cases written
      | answered | lost => rfl
    rw [chunk?_of_reaches (valid uploadId List.mem_cons_self) ⟨call, place, waits⟩ reaches, if_pos rfl]
    rfl
  | merge uploadId place total index missing =>
    have before := backed.learned_next forward (backed.learned number _ waits) names
    intro session found alive
    obtain ⟨isTotal, there⟩ := before session found alive
    refine ⟨isTotal, fun none other reached => ?_⟩
    rcases reached with earlier | ⟨rfl, answered⟩
    · exact there none other (Or.inl earlier)
    · obtain ⟨-, -, -, -, protected_⟩ := backed.order.live_of_next forward (names _ rfl) found alive
      have present := isSome_chunk?_of_contains (valid uploadId List.mem_cons_self)
        (Option.some.inj answered)
      exact backed.seated.isSome_chunk?_next backed.order backed.tidy protected_ present _

theorem next_learned (backed : system.Backed) (forward : system.Forward event) :
    ∀ number flight, (system.next event).flights number = some flight →
      flight.Learned (system.next event) := by
  refine flights_next (fun _ flight => flight.Learned (system.next event)) ?_ ?_ ?_ ?_
  · intro number flight flies _
    exact backed.learned_next forward (backed.learned number flight flies)
      (backed.order.holding number flight flies)
  · intro call books pending opens part
    exact backed.learned_next forward (learned_of_part part fun _ none => by cases none)
      (backed.order.orderly.holding part backed.order.duty?_begun fun _ none => by cases none)
  · rintro number fate call pending rfl waits
    exact backed.learned_serve waits forward
  · intro number flight books pending flies part
    refine backed.learned_next forward (learned_of_part part fun held same => ?_)
      (backed.order.orderly.holding part (duty?_of_flies flies) fun held same => ?_)
    · cases same
      exact backed.learned number _ flies
    · cases same
      exact backed.order.holding number _ flies

/-- Whatever part of a call comes next, no session promises more than the store holds. -/
theorem carries_follows (backed : system.Backed) (event : Event) :
    system.coordinator.Carries system.Follows (system.next event).coordinator := by
  refine carries_next fun {call flight books waits} flies part => ?_
  refine part.carries (fun _ _ => ⟨rfl, id, id⟩) ?_ ?_ ?_
  · intro uploadId place index data session isFlight found pending
    refine ⟨rfl, id, fun backs promises other member => ?_⟩
    rcases IndexSet.mem_insert.1 member with rfl | recorded
    · obtain ⟨number, flew⟩ := flies _ isFlight
      obtain ⟨same, foundSame, named⟩ := backed.order.holding number _ flew _ rfl
      cases found.symm.trans foundSame
      have alive : session.isLive system.clock :=
        promises.resolve_right fun completed => nomatch pending.symm.trans completed
      have there := backed.learned number _ flew rfl session found alive
      show (system.chunk? session.uploadId other).isSome
      rwa [show session.uploadId = uploadId from named]
    · exact backs promises other recorded
  · intro uploadId place total index session isFlight last found accepts
    have alive := (Session.refusal?_eq_none.1 accepts).2
    refine ⟨rfl, fun _ => Or.inl alive, fun _ _ other member => ?_⟩
    obtain ⟨number, flew⟩ := flies _ isFlight
    obtain ⟨same, foundSame, named⟩ := backed.order.holding number _ flew _ rfl
    cases found.symm.trans foundSame
    obtain ⟨isTotal, there⟩ := backed.learned number _ flew session found alive
    have within : other < session.totalChunks := IndexSet.mem_below.1 member
    have reached : other < index ∨ other = index ∧ some (.ok true : Outcome Bool) = some (.ok true) := by
      rcases Nat.lt_or_ge other index with earlier | later
      · exact Or.inl earlier
      · exact Or.inr ⟨by omega, rfl⟩
    show (system.chunk? session.uploadId other).isSome
    rw [show session.uploadId = uploadId from named]
    exact there rfl other reached
  · intro session pending
    refine ⟨rfl, fun promises => ?_, fun _ promises => ?_⟩ <;> exact (promises.elim nofun nofun)

/-- The session to which an identifier leads after an event promises no more than the store holds. -/
theorem next_tracked (backed : system.Backed) (forward : system.Forward event) {uploadId : String}
    {place : SessionId} {session : Session}
    (finds : (system.next event).coordinator.find uploadId = .ok (place, session)) :
    (system.next event).Backs session := by
  obtain ⟨leads, found⟩ := Coordinator.find_eq_ok.1 finds
  rcases tracked_next leads with before | ⟨user, announced, -, -, -, rfl, tracks⟩
  · obtain ⟨old, was, named⟩ := backed.order.orderly.known uploadId place before
    obtain ⟨same, foundSame, follows⟩ := backed.carries_follows event place old was
    cases found.symm.trans foundSame
    intro promises index member
    have promisesBefore : session.Promises system.clock :=
      promises.imp_left (Session.isLive_anti (clock_le_next forward))
    have backs := backed.tracked uploadId place old (Coordinator.find_eq_ok.2 ⟨before, was⟩)
    have there := follows.backs backs promisesBefore index member
    have protected_ : system.Protects session.uploadId := by
      rw [follows.uploadId, named]
      exact ⟨place, before, old, was, follows.promises promisesBefore⟩
    exact backed.seated.isSome_chunk?_next backed.order backed.tidy protected_ there event
  · rw [tracks, Coordinator.session?_track, if_pos rfl] at found
    cases found
    exact fun _ index member => (List.not_mem_nil member).elim

theorem next (backed : system.Backed) (law : system.Exclusive event) : (system.next event).Backed where
  order := backed.order.next law.1
  tidy := backed.tidy.next event
  seated := backed.seated.next backed.order law.2
  sound := backed.sound.next event
  tracked _ _ _ finds := backed.next_tracked law.1 finds
  learned := backed.next_learned law.1

theorem initial (config : UploadConfig) (store : Memory) (clock : Timestamp) :
    (System.initial config store clock).Backed where
  order := .initial config store clock
  tidy := .initial config store clock
  seated _ _ takes := by cases takes
  sound := .initial config store clock
  tracked _ _ _ finds := by cases finds
  learned _ _ flies := by cases flies

end Backed

/-- The store holds every chunk that a tracked session records, if the session is live or completed. So it holds
the chunks that a client is told not to send again, and all chunks of a completed upload. -/
theorem recorded_chunks_stored (reachable : system.Reachable Exclusive) :
    (∀ uploadId place session, system.coordinator.find uploadId = .ok (place, session) →
      session.isLive system.clock ∨ session.status = .completed →
        ∀ index ∈ session.uploaded, (system.chunk? uploadId index).isSome) ∧
    (∀ user announced receipt,
      (system.coordinator.announce user announced system.clock).2 = .ok receipt →
        ∀ index ∈ receipt.uploadedChunks, (system.chunk? announced.uploadId index).isSome) ∧
    ∀ uploadId, system.IsWhole uploadId := by
  have backed : system.Backed := reachable.holds Backed.initial Backed.next
  have recorded (uploadId : String) (place : SessionId) (session : Session)
      (finds : system.coordinator.find uploadId = .ok (place, session))
      (promises : session.Promises system.clock) (index : Nat) (member : index ∈ session.uploaded) :
      (system.chunk? uploadId index).isSome := by
    obtain ⟨leads, found⟩ := Coordinator.find_eq_ok.1 finds
    obtain ⟨same, foundSame, rfl⟩ := backed.order.orderly.known uploadId place leads
    cases found.symm.trans foundSame
    exact backed.tracked _ place session finds promises index member
  refine ⟨recorded, fun user announced receipt accepted index member => ?_,
    fun uploadId session complete index within => ?_⟩
  · obtain ⟨place, session, finds, alive, listed⟩ := Coordinator.live_of_mem_receipt accepted member
    exact recorded _ place session finds (Or.inl alive) index listed
  · obtain ⟨place, finds, completed⟩ := completed?_eq_some.1 complete
    have whole := (backed.sound.sessions place session (Coordinator.find_eq_ok.1 finds).2).whole completed
    refine recorded uploadId place session finds (Or.inr completed) index ?_
    rw [whole]
    exact IndexSet.mem_below.2 within

/-- One upload is cancelled and swept while a chunk of another is being written, and then that is resumed. -/
theorem recorded_chunks_stored_resumed :
    let start := initial {} {} ⟨0⟩
    let announced : Announcement := ⟨"u", "f", 2, 2⟩
    let events : List Event :=
      [.announce 1 announced, .begin (.store "u" 0 "a".toUTF8), .announce 2 ⟨"v", "g", 1, 1⟩,
        .begin (.cancel "v" 2), .serve 1 (.refused .serialization), .serve 0 .answered, .resume 1,
        .sweep [("v", 1)], .serve 2 .answered, .resume 2, .resume 0]
    let system := start.run events
    start.Obeys Exclusive events ∧
      (system.coordinator.announce 1 announced system.clock).2 =
        .ok ⟨"u", [0], system.coordinator.config.chunkSizeBytes⟩ ∧
      (system.chunk? "u" 0).isSome := by
  intro start announced events system
  have exclusive : start.Obeys Exclusive events := by decide +kernel
  have resumes : (system.coordinator.announce 1 announced system.clock).2 =
      .ok ⟨"u", [0], system.coordinator.config.chunkSizeBytes⟩ := by decide +kernel
  have stored := (recorded_chunks_stored ⟨_, _, _, events, exclusive, rfl⟩).2.1 1 announced _ resumes
  exact ⟨exclusive, resumes, stored 0 List.mem_cons_self⟩

end System

end Community.Upload
