/-
This file proves what holds of the sessions in the hands of calls whatever the clock shows. A call has
sessions in hand only under the identifiers to which they belong. A session whose blobs are being
removed is marked, and one call alone is at work on it. It has been cancelled, or it was pending and
expired when the sweep began, and the mark keeps it as it was: it is not completed, not cancelled and
not taken up by another call. The worst that can happen to it is that a chunk is recorded which was on
its way. A completed session is left alone altogether.
-/

import Community.Proofs.Upload.Orderly

namespace Community.Upload

/-- The sessions that a call in progress has in hand, now or later, under their identifiers. -/
def Pending.bindings : Pending → List (String × SessionId)
  | .store uploadId place .. => [(uploadId, place)]
  | .merge uploadId place .. => [(uploadId, place)]
  | .cancel uploadId place _ => [(uploadId, place)]
  | .read .. => []
  | .sweep _ uploadId place _ waiting _ => (uploadId, place) :: waiting

/-- The sessions to which identifiers lead, and those in the hands of calls, belong to their
identifiers. -/
structure System.Named (system : System) : Prop where
  tracked : ∀ uploadId place, system.place? uploadId = some place →
    system.coordinator.Names uploadId place
  held : ∀ number flight, system.flights number = some flight →
    ∀ binding ∈ flight.pending.bindings, system.coordinator.Names binding.1 binding.2

/-- Is the session marked as being cleaned up, or completed? -/
def Session.IsShut (session : Session) : Prop :=
  session.purging = true ∨ session.status = .completed

/-- Why a duty was taken on: the session has been cancelled, or it was abandoned when the sweep began.
-/
def Duty.Forsakes (duty : Duty) (session : Session) : Prop :=
  match duty.round with
  | none => session.status = .cancelled
  | some (started, _) => session.isAbandoned started

/-- The session of a duty is marked, and there is a reason for it. -/
def Duty.Locks (duty : Duty) (books : Coordinator) : Prop :=
  ∃ session, books.session? duty.session = some session ∧ session.purging = true ∧
    duty.Forsakes session

/-- Each duty has its session locked, and no two calls have the same session. -/
structure Locked (books : Coordinator) (duties : Nat → Option Duty) : Prop where
  locks : ∀ call duty, duties call = some duty → duty.Locks books
  alone : ∀ call other duty second, duties call = some duty → duties other = some second →
    duty.session = second.session → call = other

/-! ### Sessions in hand -/

section Parts

variable {now : Timestamp} {books after : Coordinator} {call : Call} {flight : Option Flight}
  {waits : Option Pending} {pending : Pending} {place : SessionId} {session : Session}

/-- A call has sessions in hand to which their identifiers lead, or which it had in hand before. -/
theorem Part.bindings (part : Part now books call flight after (some pending))
    {binding : String × SessionId} (member : binding ∈ pending.bindings) :
    books.tracked.get? binding.1 = some binding.2 ∨
      ∃ held ∈ flight, binding ∈ held.pending.bindings := by
  cases part with
  | readBegins | readContinues => cases member
  | storeBegins found accepts inRange =>
    cases List.mem_singleton.1 member
    exact Or.inl (Coordinator.find_eq_ok.1 found).1
  | mergeBegins found accepts =>
    cases List.mem_singleton.1 member
    exact Or.inl (Coordinator.find_eq_ok.1 found).1
  | cancelBegins found pending free =>
    cases List.mem_singleton.1 member
    exact Or.inl (Coordinator.find_eq_ok.1 found).1
  | mergeContinues | cancelContinues | sweepContinues => exact Or.inr ⟨_, rfl, member⟩
  | sweepBegins candidates taken =>
    have abandoned := candidates.mem_iff.1 (taken.suffix.subset member)
    exact Or.inl (Table.get?_eq_some_iff.2 (List.mem_filter.1 abandoned).1)
  | sweepTurns ended taken =>
    exact Or.inr ⟨_, rfl, List.mem_cons_of_mem _ (taken.suffix.subset member)⟩

end Parts

namespace System.Named

variable {system : System} {event : Event}

theorem initial (config : UploadConfig) (store : Blob.Memory) (clock : Timestamp) :
    (System.initial config store clock).Named where
  tracked _ _ leads := by cases leads
  held _ _ flies := by cases flies

theorem next (named : system.Named) (event : Event) : (system.next event).Named where
  tracked uploadId place leads := by
    rcases tracked_next leads with before | ⟨user, announced, -, same, -, rfl, tracks⟩
    · exact (named.tracked uploadId place before).grows (system.grows_next event)
    · rw [tracks]
      exact ⟨_, Coordinator.session?_track.trans (if_pos rfl), same⟩
  held := by
    refine flights_next
      (fun _ flight => ∀ binding ∈ flight.pending.bindings,
        (system.next event).coordinator.Names binding.1 binding.2)
      (fun number flight flies _ binding member => ?_) (fun _ part binding member => ?_)
      (fun {number fate call pending} _ waits binding member => ?_)
      (fun {number flight books pending} flies part binding member => ?_)
    all_goals refine Coordinator.Names.grows ?_ (system.grows_next event)
    · exact named.held number flight flies binding member
    · rcases part.bindings member with leads | ⟨held, none, -⟩
      · exact named.tracked _ _ leads
      · cases none
    · exact named.held number ⟨call, pending, none⟩ waits binding member
    · rcases part.bindings member with leads | ⟨held, same, among⟩
      · exact named.tracked _ _ leads
      · cases same
        exact named.held number flight flies binding among

theorem run (named : system.Named) (events : List Event) : (system.run events).Named :=
  Obeys.keeps (fun named _ => named.next _) named (obeys_lawless system events)

end System.Named

/-! ### Sessions that are shut -/

namespace Session

variable {session : Session} {now : Timestamp}

/-- A session that is shut is not taken up, nor is it cancelled. -/
theorem IsShut.not_free (shut : session.IsShut) (free : session.purging = false)
    (unfinished : session.status ≠ .completed) : False := by
  rcases shut with marked | completed
  · rw [free] at marked
    cases marked
  · exact unfinished completed

theorem not_completed_of_isAbandoned (abandoned : session.isAbandoned now) :
    session.status ≠ .completed :=
  (isAbandoned_iff.1 abandoned).2

end Session

namespace Duty

variable {duty : Duty} {books after : Coordinator} {session : Session}

theorem Forsakes.not_completed (forsakes : duty.Forsakes session) : session.status ≠ .completed := by
  unfold Forsakes at forsakes
  split at forsakes
  · rw [forsakes]
    nofun
  · exact Session.not_completed_of_isAbandoned forsakes

/-- What was recorded last does not matter for the lock. -/
theorem Forsakes.record (forsakes : duty.Forsakes session) (index : Nat) (now : Timestamp) :
    duty.Forsakes (session.record index now) :=
  forsakes

end Duty

section Parts

variable {now : Timestamp} {books after : Coordinator} {call : Call} {flight : Option Flight}
  {waits : Option Pending} {place number : SessionId} {uploadId : String} {session : Session}
  {change : Session → Session}

theorem Coordinator.session?_release_of_ne (differs : number ≠ place) (result : Outcome Nat) :
    (books.release uploadId number result).session? place = books.session? place := by
  cases result with
  | ok removed => exact session?_untrack
  | error failure => exact session?_modify_of_ne differs

/-- A part of a call leaves a session alone that is shut, unless the call has been working on it; but
a chunk may be recorded in it while it is pending. -/
theorem Part.session?_of_shut (part : Part now books call flight after waits)
    (found : books.session? place = some session) (shut : session.IsShut)
    (others : ∀ duty ∈ flight.bind fun held => held.pending.duty?, duty.session ≠ place) :
    after.session? place = some session ∨
      session.status = .pending ∧ ∃ index, after.session? place = some (session.record index now) := by
  -- a session that is free and not completed is another one
  have spared {books : Coordinator} {number : SessionId} {other : Session} {change : Session → Session}
      (here : books.session? place = some session) (there : books.session? number = some other)
      (free : other.purging = false) (unfinished : other.status ≠ .completed) :
      (books.modify number change).session? place = some session := by
    refine (Coordinator.session?_modify_of_ne fun same => ?_).trans here
    subst same
    cases here.symm.trans there
    exact shut.not_free free unfinished
  cases part with
  | ends | storeBegins | mergeBegins | mergeContinues => exact Or.inl found
  | cancelContinues | readBegins | readContinues | sweepContinues => exact Or.inl found
  | @records call uploadId index number data other foundOther pending =>
    by_cases same : number = place
    · subst same
      cases found.symm.trans foundOther
      exact Or.inr ⟨pending, index, Coordinator.session?_modify_self found⟩
    · exact Or.inl ((Coordinator.session?_modify_of_ne same).trans found)
  | completes last foundOther accepts =>
    exact Or.inl (spared found foundOther (Session.refusal?_eq_none.1 accepts).1
      (Session.not_completed_of_accepts accepts))
  | cancelBegins foundOther pending free =>
    exact Or.inl (spared found (Coordinator.find_eq_ok.1 foundOther).2 free (by rw [pending]; nofun))
  | cancelEnds ended => exact Or.inl ((Coordinator.session?_modify_of_ne (others _ rfl)).trans found)
  | sweepBegins candidates taken =>
    obtain ⟨other, foundOther, abandoned, free⟩ := taken.free
    exact Or.inl (spared found foundOther free (Session.not_completed_of_isAbandoned abandoned))
  | @sweepTurns _ _ uploadId _ number _ _ _ _ _ _ _ result ended taken =>
    obtain ⟨other, foundOther, abandoned, free⟩ := taken.free
    have released : (books.release uploadId number result).session? place = some session :=
      (Coordinator.session?_release_of_ne (others _ rfl) result).trans found
    exact Or.inl (spared released foundOther free (Session.not_completed_of_isAbandoned abandoned))
  | sweepEnds ended => exact Or.inl ((Coordinator.session?_release_of_ne (others _ rfl) _).trans found)

end Parts

/-! ### Locks -/

namespace Locked

variable {now : Timestamp} {books after : Coordinator} {duties : Nat → Option Duty} {number : Nat}
  {call : Call} {flight : Option Flight} {waits : Option Pending} {duty : Duty} {session : Session}

/-- A session that is not marked is no call's duty. -/
theorem not_duty_of_free (locked : Locked books duties) {place : SessionId}
    (found : books.session? place = some session) (free : session.purging = false)
    (takes : duties number = some duty) : duty.session ≠ place := by
  rintro rfl
  obtain ⟨held, here, marked, -⟩ := locked.locks number duty takes
  cases found.symm.trans here
  rw [free] at marked
  cases marked

/-- A duty's lock holds as long as no other call's part touches it. -/
theorem kept (locked : Locked books duties) (part : Part now books call flight after waits)
    (takes : duties number = some duty)
    (others : ∀ second ∈ flight.bind fun held => held.pending.duty?, second.session ≠ duty.session) :
    duty.Locks after := by
  obtain ⟨session, found, marked, forsakes⟩ := locked.locks number duty takes
  rcases part.session?_of_shut found (Or.inl marked) others with same | ⟨-, index, recorded⟩
  · exact ⟨session, same, marked, forsakes⟩
  · exact ⟨_, recorded, marked, forsakes.record index now⟩

/-- What a call works on after one of its parts is locked, and no other call works on it. -/
theorem taken (locked : Locked books duties) {pending : Pending}
    (part : Part now books call flight after (some pending)) (works : pending.duty? = some duty)
    (stands : duties number = flight.bind fun held => held.pending.duty?) :
    duty.Locks after ∧
      ∀ other second, other ≠ number → duties other = some second → second.session ≠ duty.session := by
  cases part with
  | storeBegins | mergeBegins | mergeContinues | readBegins | readContinues => cases works
  | cancelContinues further =>
    refine ⟨locked.locks number duty (stands.trans works), fun other second differs takes same => ?_⟩
    exact differs (locked.alone other number second duty takes (stands.trans works) same)
  | sweepContinues further =>
    refine ⟨locked.locks number duty (stands.trans works), fun other second differs takes same => ?_⟩
    exact differs (locked.alone other number second duty takes (stands.trans works) same)
  | cancelBegins found pending free =>
    cases works
    have here := (Coordinator.find_eq_ok.1 found).2
    exact ⟨⟨_, Coordinator.session?_modify_self here, rfl, rfl⟩,
      fun other second _ takes => locked.not_duty_of_free here free takes⟩
  | sweepBegins candidates taken =>
    cases works
    obtain ⟨session, here, abandoned, free⟩ := taken.free
    exact ⟨⟨_, Coordinator.session?_modify_self here, rfl, abandoned⟩,
      fun other second _ takes => locked.not_duty_of_free here free takes⟩
  | @sweepTurns _ _ uploadId _ place _ _ _ _ _ _ _ result ended taken =>
    cases works
    obtain ⟨session, here, abandoned, free⟩ := taken.free
    refine ⟨⟨_, Coordinator.session?_modify_self here, rfl, abandoned⟩,
      fun other second differs takes same => ?_⟩
    -- the session of another call is marked still when this call has given up its own
    have distinct : place ≠ second.session := fun equal =>
      differs (locked.alone other number second _ takes stands equal.symm)
    obtain ⟨held, found, marked, -⟩ := locked.locks other second takes
    have released : (books.release uploadId place result).session? second.session = some held :=
      (Coordinator.session?_release_of_ne distinct result).trans found
    rw [same] at released
    cases here.symm.trans released
    rw [free] at marked
    cases marked

/-- Whatever part of a call comes next keeps the locks. -/
theorem part (locked : Locked books duties) (part : Part now books call flight after waits)
    (stands : duties number = flight.bind fun held => held.pending.duty?) :
    Locked after (Function.update duties number (waits.bind Pending.duty?)) := by
  have foreign {other : Nat} {duty : Duty} (differs : other ≠ number)
      (takes : duties other = some duty) : duty.Locks after :=
    locked.kept part takes fun second isDuty same =>
      differs (locked.alone other number duty second takes (stands.trans isDuty) same.symm)
  have own {duty : Duty} (works : waits.bind Pending.duty? = some duty) :
      duty.Locks after ∧ ∀ other second, other ≠ number → duties other = some second →
        second.session ≠ duty.session := by
    obtain ⟨pending, rfl, isDuty⟩ := Option.bind_eq_some_iff.1 works
    exact locked.taken part isDuty stands
  constructor
  · intro other duty takes
    by_cases same : other = number
    · subst same
      rw [Function.update_self] at takes
      exact (own takes).1
    · rw [Function.update_of_ne same] at takes
      exact foreign same takes
  · intro one two duty second takes takesSecond same
    by_cases isOne : one = number <;> by_cases isTwo : two = number
    · rw [isOne, isTwo]
    · subst isOne
      rw [Function.update_self] at takes
      rw [Function.update_of_ne isTwo] at takesSecond
      exact absurd same.symm ((own takes).2 two second isTwo takesSecond)
    · subst isTwo
      rw [Function.update_self] at takesSecond
      rw [Function.update_of_ne isOne] at takes
      exact absurd same ((own takesSecond).2 one duty isOne takes)
    · rw [Function.update_of_ne isOne] at takes
      rw [Function.update_of_ne isTwo] at takesSecond
      exact locked.alone one two duty second takes takesSecond same

theorem track (locked : Locked books duties) : Locked (books.track session) duties where
  locks number duty takes := by
    obtain ⟨held, found, lock⟩ := locked.locks number duty takes
    refine ⟨held, ?_, lock⟩
    rw [Coordinator.session?_track, if_neg (Nat.ne_of_lt (Coordinator.lt_size_of_session? found)),
      found]
  alone := locked.alone

end Locked

namespace System

variable {system : System}

/-- The locks that calls have on sessions hold. -/
structure Guarded (system : System) : Prop where
  coherent : system.Coherent
  locked : Locked system.coordinator system.duty?

namespace Guarded

theorem initial (config : UploadConfig) (store : Blob.Memory) (clock : Timestamp) :
    (System.initial config store clock).Guarded where
  coherent := .initial config store clock
  locked := {
    locks := fun _ _ takes => by cases takes
    alone := fun _ _ _ _ takes => by cases takes }

theorem next (guarded : system.Guarded) (event : Event) : (system.next event).Guarded := by
  refine ⟨guarded.coherent.next event, ?_⟩
  have moves := system.move event
  generalize system.next event = after at moves
  cases moves with
  | idles | ticks => exact guarded.locked
  | announces user announced =>
    dsimp only
    rcases system.coordinator.announce_cases user announced with same | ⟨equal, -⟩
    · rw [same]
      exact guarded.locked
    · rw [equal]
      exact guarded.locked.track
  | begins opens part =>
    rw [duty?_of_part rfl]
    refine guarded.locked.part part ?_
    unfold duty?
    rw [guarded.coherent.fresh system.begun (Nat.le_refl _)]
  | serves waits =>
    rw [duty?_update rfl]
    refine cast (congrArg _ (Function.update_eq_self_iff.2 ?_).symm) guarded.locked
    exact (duty?_of_flies waits).symm
  | resumes answered part =>
    rw [duty?_of_part rfl]
    exact guarded.locked.part part (duty?_of_flies answered)

theorem run (guarded : system.Guarded) (events : List Event) : (system.run events).Guarded :=
  Obeys.keeps (fun guarded _ => guarded.next _) guarded (obeys_lawless system events)

end Guarded

end System

end Community.Upload
