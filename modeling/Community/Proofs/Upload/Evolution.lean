/-
This file follows sessions and identifiers through time. Once it is made a session stays in the books, and
what becomes of it comes down to four changes: a chunk is recorded, the session is completed or cancelled, or
it is marked as being cleaned up or no longer so. In all of these it keeps its identifier and its number of
chunks, when it is completed it stays completed, and it does not come to life. An identifier comes to lead to
a session only when it is announced, and only if it can stand in a path.
-/

import Mathlib.Order.Defs.Unbundled
import Community.Proofs.Upload.Part

namespace Community.Upload

/-- What a session becomes in the course of time. -/
structure Session.Evolves (before after : Session) : Prop where
  uploadId : after.uploadId = before.uploadId
  totalChunks : after.totalChunks = before.totalChunks
  completed : before.status = .completed → after.status = .completed
  live : ∀ now, after.isLive now → before.isLive now

/-- Every session is still there later, and has become what a relation allows. -/
def Coordinator.Carries (Becomes : Session → Session → Prop) (books later : Coordinator) : Prop :=
  ∀ place session, books.session? place = some session →
    ∃ after, later.session? place = some after ∧ Becomes session after

/-- Every session is still there later, and what it has become. -/
def Coordinator.Grows (books later : Coordinator) : Prop :=
  ∀ place session, books.session? place = some session →
    ∃ after, later.session? place = some after ∧ session.Evolves after

/-- Is there a session with a number that belongs to an identifier? -/
def Coordinator.Names (books : Coordinator) (uploadId : String) (number : SessionId) : Prop :=
  ∃ session, books.session? number = some session ∧ session.uploadId = uploadId

/-! ### Changes of the books -/

instance : IsPreorder Session Session.Evolves where
  refl _ := ⟨rfl, rfl, id, fun _ => id⟩
  trans _ _ _ earlier later :=
    ⟨later.uploadId.trans earlier.uploadId, later.totalChunks.trans earlier.totalChunks,
      fun completed => later.completed (earlier.completed completed),
      fun now alive => earlier.live now (later.live now alive)⟩

namespace Coordinator

variable {Becomes : Session → Session → Prop} [IsPreorder Session Becomes]
  {books middle later : Coordinator} {uploadId other : String} {place number : SessionId}
  {session : Session} {change : Session → Session}

theorem Carries.refl (books : Coordinator) : books.Carries Becomes books :=
  fun _ session found => ⟨session, found, refl_of Becomes session⟩

theorem Carries.trans (carries : books.Carries Becomes middle)
    (further : middle.Carries Becomes later) : books.Carries Becomes later := by
  intro place session found
  obtain ⟨after, foundAfter, becomes⟩ := carries place session found
  obtain ⟨last, foundLast, becomesFurther⟩ := further place after foundAfter
  exact ⟨last, foundLast, trans_of Becomes becomes becomesFurther⟩

theorem carries_modify
    (becomes : ∀ session, books.session? number = some session → Becomes session (change session)) :
    books.Carries Becomes (books.modify number change) := by
  intro place session found
  by_cases same : number = place
  · subst same
    exact ⟨change session, session?_modify_self found, becomes session found⟩
  · exact ⟨session, (session?_modify_of_ne same).trans found, refl_of Becomes session⟩

theorem carries_untrack : books.Carries Becomes (books.untrack uploadId number) :=
  fun _ session found => ⟨session, session?_untrack.trans found, refl_of Becomes session⟩

theorem carries_release (marks : ∀ session purging, Becomes session { session with purging })
    (result : Outcome Nat) : books.Carries Becomes (books.release uploadId number result) := by
  cases result with
  | ok removed => exact carries_untrack
  | error failure => exact carries_modify fun session _ => marks session false

theorem carries_track : books.Carries Becomes (books.track session) := by
  intro place old found
  refine ⟨old, ?_, refl_of Becomes old⟩
  rw [session?_track, if_neg (Nat.ne_of_lt (lt_size_of_session? found)), found]

theorem grows_untrack : books.Grows (books.untrack uploadId number) :=
  carries_untrack

theorem grows_release (result : Outcome Nat) : books.Grows (books.release uploadId number result) :=
  carries_release (fun _ _ => ⟨rfl, rfl, id, fun _ => id⟩) result

theorem grows_track : books.Grows (books.track session) :=
  carries_track

theorem tracked_of_untrack
    (tracked : (books.untrack uploadId number).tracked.get? other = some place) :
    books.tracked.get? other = some place := by
  rw [get?_tracked_untrack] at tracked
  split at tracked
  · cases tracked
  · exact tracked

theorem tracked_of_release {result : Outcome Nat}
    (tracked : (books.release uploadId number result).tracked.get? other = some place) :
    books.tracked.get? other = some place := by
  cases result with
  | ok removed => exact tracked_of_untrack tracked
  | error failure => exact tracked

theorem Names.grows (names : books.Names uploadId place) (grows : books.Grows later) :
    later.Names uploadId place := by
  obtain ⟨session, found, named⟩ := names
  obtain ⟨after, foundAfter, evolves⟩ := grows place session found
  exact ⟨after, foundAfter, evolves.uploadId.trans named⟩

/-- A session belongs to one identifier. -/
theorem Names.unique (names : books.Names uploadId place) (others : books.Names other place) :
    uploadId = other := by
  obtain ⟨one, found, named⟩ := names
  obtain ⟨two, foundToo, namedToo⟩ := others
  cases found.symm.trans foundToo
  exact named.symm.trans namedToo

end Coordinator

/-! ### Parts of calls -/

section Parts

variable {now : Timestamp} {books after : Coordinator} {call : Call} {flight : Option Flight}
  {waits : Option Pending}

/-- Whatever part of a call comes next, a session becomes what the four changes make of it. -/
theorem Part.carries {Becomes : Session → Session → Prop} [IsPreorder Session Becomes]
    (part : Part now books call flight after waits)
    (marks : ∀ session purging, Becomes session { session with purging })
    (records : ∀ uploadId place index data session,
      flight = some ⟨call, .store uploadId place index data, some (.ok ())⟩ →
        books.session? place = some session → session.status = .pending →
          Becomes session (session.record index now))
    (completes : ∀ uploadId place total index session,
      flight = some ⟨call, .merge uploadId place total index [], some (.ok true)⟩ → total ≤ index + 1 →
        books.session? place = some session → session.refusal? now = none →
          Becomes session (session.complete now))
    (cancels : ∀ session, session.status = .pending → Becomes session (session.cancel now)) :
    books.Carries Becomes after := by
  cases part with
  | ends | storeBegins | mergeBegins | mergeContinues => exact .refl books
  | cancelContinues | readBegins | readContinues | sweepContinues => exact .refl books
  | @records call uploadId index number data session found pending =>
    refine Coordinator.carries_modify fun same foundSame => ?_
    cases found.symm.trans foundSame
    exact records uploadId number index data session rfl found pending
  | @completes call uploadId number total index session last found accepts =>
    refine Coordinator.carries_modify fun same foundSame => ?_
    cases found.symm.trans foundSame
    exact completes uploadId number total index session rfl last found accepts
  | @cancelBegins uploadId number session found pending free =>
    refine Coordinator.carries_modify fun same foundSame => ?_
    cases (Coordinator.find_eq_ok.1 found).2.symm.trans foundSame
    exact cancels session pending
  | cancelEnds ended => exact Coordinator.carries_modify fun session _ => marks session false
  | sweepBegins candidates taken => exact Coordinator.carries_modify fun session _ => marks session true
  | sweepTurns ended taken =>
    exact (Coordinator.carries_release marks _).trans
      (Coordinator.carries_modify fun session _ => marks session true)
  | sweepEnds ended => exact Coordinator.carries_release marks _

theorem Part.grows (part : Part now books call flight after waits) : books.Grows after :=
  part.carries (fun _ _ => ⟨rfl, rfl, id, fun _ => id⟩)
    (fun _ _ _ _ _ _ _ _ => ⟨rfl, rfl, id, fun _ => id⟩)
    (fun _ _ _ _ _ _ _ _ _ => ⟨rfl, rfl, fun _ => rfl, fun _ => nofun⟩) fun _ pending =>
      ⟨rfl, rfl, fun completed => absurd (pending.symm.trans completed) nofun, fun _ => nofun⟩

/-- No part of a call makes an identifier lead to a session. -/
theorem Part.tracked_of_tracked (part : Part now books call flight after waits) {uploadId : String}
    {place : SessionId} (tracked : after.tracked.get? uploadId = some place) :
    books.tracked.get? uploadId = some place := by
  cases part with
  | ends | storeBegins | mergeBegins | mergeContinues => exact tracked
  | cancelContinues | readBegins | readContinues | sweepContinues => exact tracked
  | records | completes | cancelBegins | cancelEnds | sweepBegins => exact tracked
  | sweepTurns ended taken => exact Coordinator.tracked_of_release tracked
  | sweepEnds ended => exact Coordinator.tracked_of_release tracked

/-- A part of a call makes an identifier lead away from a session only if the call has been working on it. -/
theorem Part.tracked_iff {uploadId : String} {place : SessionId}
    (part : Part now books call flight after waits)
    (other : ∀ duty ∈ flight.bind fun held => held.pending.duty?, duty.session ≠ place) :
    after.tracked.get? uploadId = some place ↔ books.tracked.get? uploadId = some place := by
  have released {identifier : String} {number : SessionId} (differs : number ≠ place)
      (result : Outcome Nat) :
      (books.release identifier number result).tracked.get? uploadId = some place ↔
        books.tracked.get? uploadId = some place := by
    cases result with
    | error failure => exact Iff.rfl
    | ok removed =>
      unfold Coordinator.release
      dsimp only
      rw [Coordinator.get?_tracked_untrack]
      split
      · next both =>
        rw [both.2, Option.some.injEq]
        constructor
        · intro none
          cases none
        · exact fun same => absurd same differs
      · exact Iff.rfl
  cases part with
  | ends | storeBegins | mergeBegins | mergeContinues => exact Iff.rfl
  | cancelContinues | readBegins | readContinues | sweepContinues => exact Iff.rfl
  | records | completes | cancelBegins | cancelEnds | sweepBegins => exact Iff.rfl
  | sweepTurns ended taken => exact released (other _ rfl) _
  | sweepEnds ended => exact released (other _ rfl) _

end Parts

/-! ### Events -/

namespace System

variable {system : System}

/-- An event carries the sessions if the part of a call does that it consists of. -/
theorem carries_next {Becomes : Session → Session → Prop} [IsPreorder Session Becomes] {event : Event}
    (parts : ∀ {call flight books waits},
      (∀ held ∈ flight, ∃ number, system.flights number = some held) →
        Part system.clock system.coordinator call flight books waits →
          system.coordinator.Carries Becomes books) :
    system.coordinator.Carries Becomes (system.next event).coordinator := by
  have moves := system.move event
  generalize system.next event = after at moves
  cases moves with
  | idles | ticks | serves => exact .refl _
  | announces user announced =>
    dsimp only
    rcases system.coordinator.announce_cases user announced with same | ⟨equal, -⟩
    · rw [same]
      exact .refl _
    · rw [equal]
      exact Coordinator.carries_track
  | begins opens part => exact parts (fun held none => by cases none) part
  | @resumes number flight books waits answered part =>
    exact parts (fun held same => by cases same; exact ⟨number, answered⟩) part

theorem grows_next (system : System) (event : Event) :
    system.coordinator.Grows (system.next event).coordinator :=
  carries_next fun _ part => part.grows

theorem grows_run (system : System) (events : List Event) :
    system.coordinator.Grows (system.run events).coordinator := by
  induction events generalizing system with
  | nil => exact Coordinator.Carries.refl _
  | cons event rest inductionHypothesis =>
    exact Coordinator.Carries.trans (system.grows_next event) (inductionHypothesis (system.next event))

/-- An identifier that leads to a session after an event did so before, or has just been announced. -/
theorem tracked_next {event : Event} {uploadId : String} {place : SessionId}
    (tracked : (system.next event).coordinator.tracked.get? uploadId = some place) :
    system.coordinator.tracked.get? uploadId = some place ∨
      ∃ user announced, event = .announce user announced ∧ announced.uploadId = uploadId ∧
        isValidId uploadId ∧ place = system.coordinator.sessions.size ∧
        (system.next event).coordinator =
          system.coordinator.track (system.coordinator.freshSession user announced system.clock) := by
  have moves := system.move event
  generalize system.next event = after at moves tracked
  cases moves with
  | idles | ticks | serves => exact Or.inl tracked
  | announces user announced =>
    dsimp only at tracked ⊢
    rcases system.coordinator.announce_cases user announced with same | ⟨equal, valid, -⟩
    · rw [same] at tracked
      exact Or.inl tracked
    · rw [equal, Coordinator.get?_tracked_track] at tracked
      split at tracked
      · next named =>
        cases tracked
        refine Or.inr ⟨user, announced, rfl, named, ?_, rfl, congrArg Prod.fst equal⟩
        rw [← named]
        exact valid
      · exact Or.inl tracked
  | begins opens part => exact Or.inl (part.tracked_of_tracked tracked)
  | resumes answered part => exact Or.inl (part.tracked_of_tracked tracked)

end System

end Community.Upload
