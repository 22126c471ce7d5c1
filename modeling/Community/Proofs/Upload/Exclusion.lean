/-
This file proves that the mark of a session whose blobs are being removed is a lock that is always given
back. At most one call at a time removes the blobs of a session. A session to which an identifier leads is
marked exactly as long as such a call is at work on it, however the removal goes: a cancellation takes the
mark off, a sweep that fails does so too, and a sweep that succeeds leaves it on a session to which no
identifier leads any longer. As long as the mark is there nobody can announce the identifier, and when no
cancellation and no sweep is in progress no mark is left.
-/

import Community.Proofs.Upload.Aside

namespace Community.Upload

/-- Does the call remove blobs? -/
def Call.removes : Call → Bool
  | .cancel .. => true
  | .sweep => true
  | _ => false

/-- The call with a number is removing the blobs of a session. -/
def System.CleansUp (system : System) (number : Nat) (place : SessionId) : Prop :=
  ∃ duty, system.duty? number = some duty ∧ duty.session = place

/-- Every session that is marked, and to which an identifier leads, is some call's duty. -/
def Attended (books : Coordinator) (duties : Nat → Option Duty) : Prop :=
  ∀ uploadId place session, books.find uploadId = .ok (place, session) → session.purging = true →
    ∃ number duty, duties number = some duty ∧ duty.session = place

/-! ### What is found after a change -/

namespace Coordinator

variable {books : Coordinator} {uploadId identifier : String} {place number : SessionId}
  {session : Session} {change : Session → Session}

theorem find_of_modify (finds : (books.modify number change).find uploadId = .ok (place, session)) :
    ∃ before, books.find uploadId = .ok (place, before) ∧
      session = if number = place then change before else before := by
  obtain ⟨leads, found⟩ := find_eq_ok.1 finds
  obtain ⟨before, was, becomes⟩ := session?_modify_eq_some found
  exact ⟨before, find_eq_ok.2 ⟨leads, was⟩, becomes⟩

theorem find_of_modify_of_ne (differs : number ≠ place)
    (finds : (books.modify number change).find uploadId = .ok (place, session)) :
    books.find uploadId = .ok (place, session) := by
  obtain ⟨before, was, becomes⟩ := find_of_modify finds
  rw [if_neg differs] at becomes
  exact becomes ▸ was

/-- What is found and still marked when a removal has ended is another session. -/
theorem find_of_endPurge (finds : (books.endPurge number).find uploadId = .ok (place, session))
    (marked : session.purging = true) :
    number ≠ place ∧ books.find uploadId = .ok (place, session) := by
  have differs : number ≠ place := by
    intro same
    obtain ⟨before, -, becomes⟩ := find_of_modify finds
    rw [becomes, if_pos same] at marked
    cases marked
  exact ⟨differs, find_of_modify_of_ne differs finds⟩

/-- What is found and still marked when a sweep has ended its work on a session is another session. -/
theorem find_of_release {result : Outcome Nat}
    (finds : (books.release identifier number result).find uploadId = .ok (place, session))
    (marked : session.purging = true) (named : number = place → identifier = uploadId) :
    number ≠ place ∧ books.find uploadId = .ok (place, session) := by
  cases result with
  | error failure => exact find_of_endPurge finds marked
  | ok removed =>
    obtain ⟨leads, found⟩ := find_eq_ok.1 finds
    rw [release, get?_tracked_untrack] at leads
    split at leads
    · cases leads
    · next kept =>
      exact ⟨fun same => kept ⟨named same, same ▸ leads⟩,
        find_eq_ok.2 ⟨leads, session?_untrack.symm.trans found⟩⟩

/-- A session whose blobs are being removed is in the way of every announcement of its identifier. -/
theorem announce_of_purging {announced : Announcement} {user : UInt64} {now : Timestamp}
    (finds : books.find announced.uploadId = .ok (place, session)) (marked : session.purging = true)
    (valid : books.announcementRefusal? announced = none) :
    books.announce user announced now =
      (books, .error (Refusal.beingCleanedUp announced.uploadId)) := by
  unfold announce
  simp only [valid, finds, marked, if_true]

end Coordinator

/-! ### Marks -/

section Parts

variable {now : Timestamp} {books after : Coordinator} {call : Call} {flight : Option Flight}
  {waits : Option Pending} {uploadId : String} {place : SessionId} {session : Session}
  {duties : Nat → Option Duty} {number : Nat}

/-- A session that is marked after a part of a call has just been taken up by the call, or it was marked
before and the call did not work on it. -/
theorem Part.marked_cases (part : Part now books call flight after waits)
    (named : ∀ duty ∈ flight.bind fun held => held.pending.duty?,
      duty.session = place → duty.uploadId = uploadId)
    (finds : after.find uploadId = .ok (place, session)) (marked : session.purging = true) :
    (∃ duty ∈ waits.bind Pending.duty?, duty.session = place) ∨
      (∃ before, books.find uploadId = .ok (place, before) ∧ before.purging = true) ∧
        ∀ duty ∈ flight.bind fun held => held.pending.duty?, duty.session ≠ place := by
  -- a call goes on with the session on which it works, or it is another one
  have goesOn {duty : Duty} (was : books.find uploadId = .ok (place, session)) :
      (∃ taken ∈ some duty, taken.session = place) ∨
        (∃ before, books.find uploadId = .ok (place, before) ∧ before.purging = true) ∧
          ∀ held ∈ some duty, held.session ≠ place := by
    by_cases same : duty.session = place
    · exact Or.inl ⟨duty, rfl, same⟩
    · exact Or.inr ⟨⟨session, was, marked⟩, fun held isDuty => by cases isDuty; exact same⟩
  cases part with
  | ends free =>
    refine Or.inr ⟨⟨session, finds, marked⟩, fun duty works => ?_⟩
    obtain ⟨held, isFlight, isDuty⟩ := Option.bind_eq_some_iff.1 works
    cases (free held isFlight).symm.trans isDuty
  | storeBegins | mergeBegins | readBegins => exact Or.inr ⟨⟨session, finds, marked⟩, nofun⟩
  | mergeContinues | readContinues => exact Or.inr ⟨⟨session, finds, marked⟩, nofun⟩
  | cancelContinues | sweepContinues => exact goesOn finds
  | records | completes =>
    obtain ⟨before, was, becomes⟩ := Coordinator.find_of_modify finds
    refine Or.inr ⟨⟨before, was, ?_⟩, nofun⟩
    subst becomes
    split at marked <;> exact marked
  | @cancelBegins identifier number =>
    by_cases same : number = place
    · exact Or.inl ⟨_, rfl, same⟩
    · exact Or.inr ⟨⟨session, Coordinator.find_of_modify_of_ne same finds, marked⟩, nofun⟩
  | cancelEnds ended =>
    obtain ⟨differs, was⟩ := Coordinator.find_of_endPurge finds marked
    exact Or.inr ⟨⟨session, was, marked⟩, by rintro duty ⟨⟩; exact differs⟩
  | @sweepBegins queue waiting identifier number =>
    by_cases same : number = place
    · exact Or.inl ⟨_, rfl, same⟩
    · exact Or.inr ⟨⟨session, Coordinator.find_of_modify_of_ne same finds, marked⟩, nofun⟩
  | @sweepTurns _ _ _ _ _ turn =>
    by_cases same : turn = place
    · exact Or.inl ⟨_, rfl, same⟩
    · obtain ⟨differs, was⟩ := Coordinator.find_of_release
        (Coordinator.find_of_modify_of_ne same finds) marked (named _ rfl)
      exact Or.inr ⟨⟨session, was, marked⟩, by rintro duty ⟨⟩; exact differs⟩
  | sweepEnds ended =>
    obtain ⟨differs, was⟩ := Coordinator.find_of_release finds marked (named _ rfl)
    exact Or.inr ⟨⟨session, was, marked⟩, by rintro duty ⟨⟩; exact differs⟩

/-- Whatever part of a call comes next, marked sessions stay in the hands of calls. -/
theorem Attended.part (attended : Attended books duties)
    (part : Part now books call flight after waits)
    (stands : duties number = flight.bind fun held => held.pending.duty?)
    (tracked : ∀ uploadId place, books.tracked.get? uploadId = some place → books.Names uploadId place)
    (held : ∀ duty ∈ flight.bind fun held => held.pending.duty?,
      books.Names duty.uploadId duty.session) :
    Attended after (Function.update duties number (waits.bind Pending.duty?)) := by
  intro uploadId place session finds marked
  have names := tracked uploadId place (part.tracked_of_tracked (Coordinator.find_eq_ok.1 finds).1)
  have named : ∀ duty ∈ flight.bind fun held => held.pending.duty?,
      duty.session = place → duty.uploadId = uploadId := by
    rintro duty works rfl
    exact (held duty works).unique names
  rcases part.marked_cases named finds marked with
    ⟨duty, works, same⟩ | ⟨⟨before, was, markedBefore⟩, others⟩
  · exact ⟨number, duty, (Function.update_self ..).trans works, same⟩
  · obtain ⟨other, duty, takes, same⟩ := attended uploadId place before was markedBefore
    have differs : other ≠ number := by
      rintro rfl
      exact others duty (stands.symm.trans takes) same
    exact ⟨other, duty, (Function.update_of_ne differs ..).trans takes, same⟩

/-- A session that has just been made is not marked. -/
theorem Attended.track (attended : Attended books duties) (free : session.purging = false) :
    Attended (books.track session) duties := by
  intro uploadId place other finds marked
  obtain ⟨leads, found⟩ := Coordinator.find_eq_ok.1 finds
  rw [Coordinator.get?_tracked_track] at leads
  rw [Coordinator.session?_track] at found
  split at found
  · cases found
    rw [free] at marked
    cases marked
  · next older =>
    split at leads
    · cases leads
      exact absurd rfl older
    · exact attended uploadId place other (Coordinator.find_eq_ok.2 ⟨leads, found⟩) marked

end Parts

namespace System

variable {system : System}

/-- The names and the locks of sessions are in order, and no mark is left behind. -/
structure Tended (system : System) : Prop where
  named : system.Named
  guarded : system.Guarded
  attended : Attended system.coordinator system.duty?

namespace Tended

theorem initial (config : UploadConfig) (store : Blob.Memory) (clock : Timestamp) :
    (System.initial config store clock).Tended where
  named := .initial config store clock
  guarded := .initial config store clock
  attended _ _ _ finds := by cases finds

theorem next (tended : system.Tended) (event : Event) : (system.next event).Tended := by
  refine ⟨tended.named.next event, tended.guarded.next event, ?_⟩
  have moves := system.move event
  generalize system.next event = after at moves
  cases moves with
  | idles | ticks => exact tended.attended
  | announces user announced =>
    dsimp only
    rcases system.coordinator.announce_cases user announced with same | ⟨equal, -⟩
    · rw [same]
      exact tended.attended
    · rw [equal]
      exact tended.attended.track rfl
  | begins opens part =>
    rw [duty?_of_part rfl]
    refine tended.attended.part part ?_ tended.named.tracked nofun
    unfold duty?
    rw [tended.guarded.coherent.fresh system.begun (Nat.le_refl _)]
  | serves waits =>
    rw [duty?_update rfl]
    refine cast (congrArg _ (Function.update_eq_self_iff.2 ?_).symm) tended.attended
    exact (duty?_of_flies waits).symm
  | resumes answered part =>
    rw [duty?_of_part rfl]
    refine tended.attended.part part (duty?_of_flies answered) tended.named.tracked fun duty works => ?_
    exact tended.named.held _ _ answered _ (Pending.duty_mem_bindings works)

theorem run (tended : system.Tended) (events : List Event) : (system.run events).Tended :=
  Obeys.keeps (fun tended _ => tended.next _) tended (obeys_lawless system events)

/-- A session to which an identifier leads is marked as long as a call removes its blobs. -/
theorem purging_iff (tended : system.Tended) {uploadId : String} {place : SessionId}
    {session : Session} (finds : system.coordinator.find uploadId = .ok (place, session)) :
    session.purging = true ↔ ∃ number, system.CleansUp number place := by
  constructor
  · exact tended.attended uploadId place session finds
  · rintro ⟨number, duty, takes, rfl⟩
    obtain ⟨held, found, marked, -⟩ := tended.guarded.locked.locks number duty takes
    cases found.symm.trans (Coordinator.find_eq_ok.1 finds).2
    exact marked

end Tended

/-- Only a cancellation or a sweep removes the blobs of a session. -/
theorem Coherent.removes_of_cleansUp (coherent : system.Coherent) {number : Nat} {place : SessionId}
    (cleansUp : system.CleansUp number place) :
    ∃ flight ∈ system.flights number, flight.call.removes = true := by
  obtain ⟨duty, takes, -⟩ := cleansUp
  obtain ⟨⟨call, pending, answer⟩, flies, works⟩ := Option.bind_eq_some_iff.1 takes
  refine ⟨_, flies, ?_⟩
  have stands := coherent.stands number _ flies
  cases pending with
  | store | merge | read => cases works
  | cancel uploadId place cleanup =>
    obtain ⟨user, rfl⟩ := stands
    rfl
  | sweep started uploadId place cleanup waiting report =>
    cases stands
    rfl

/-- When no call removes blobs, no session is marked to which an identifier leads. -/
theorem Tended.free_of_idle (tended : system.Tended)
    (idle : ∀ number, ∀ flight ∈ system.flights number, flight.call.removes = false) {uploadId : String}
    {place : SessionId} {session : Session} (finds : system.coordinator.find uploadId = .ok (place, session)) :
    session.purging = false := by
  by_contra marked
  obtain ⟨number, cleansUp⟩ := (tended.purging_iff finds).1 (Bool.not_eq_false _ ▸ marked)
  obtain ⟨flight, flies, removes⟩ := tended.guarded.coherent.removes_of_cleansUp cleansUp
  rw [idle number flight flies] at removes
  cases removes

/-- Whatever the calls do between their requests, no two of them remove the blobs of one session. A
session to which an identifier leads is marked exactly as long as a call removes its blobs, and until then
every announcement of the identifier that is not refused for what it says is refused because of the
removal. When no cancellation and no sweep is in progress, no such session is marked. -/
theorem cleanup_exclusive (config : UploadConfig) (store : Blob.Memory) (clock : Timestamp)
    (events : List Event) :
    let system := (initial config store clock).run events
    (∀ place one two, system.CleansUp one place → system.CleansUp two place → one = two) ∧
    (∀ uploadId place session, system.coordinator.find uploadId = .ok (place, session) →
      (session.purging = true ↔ ∃ number, system.CleansUp number place) ∧
      ∀ number, system.CleansUp number place → ∀ user announced, announced.uploadId = uploadId →
        system.coordinator.announcementRefusal? announced = none →
        system.step (.announce user announced) =
          (system, some (.announced user announced (.error (Refusal.beingCleanedUp uploadId))))) ∧
    ((∀ number, ∀ flight ∈ system.flights number, flight.call.removes = false) →
      ∀ uploadId place session, system.coordinator.find uploadId = .ok (place, session) →
        session.purging = false) := by
  intro system
  have tended : system.Tended := (Tended.initial config store clock).run events
  refine ⟨fun place one two ⟨duty, takes, same⟩ ⟨second, takesToo, sameToo⟩ => ?_,
    fun uploadId place session finds => ⟨tended.purging_iff finds, fun number cleansUp user announced
      named valid => ?_⟩, fun idle uploadId place session finds => tended.free_of_idle idle finds⟩
  · exact tended.guarded.locked.alone one two duty second takes takesToo (same.trans sameToo.symm)
  · subst named
    have marked := (tended.purging_iff finds).2 ⟨number, cleansUp⟩
    unfold step
    dsimp only
    rw [Coordinator.announce_of_purging finds marked valid]

/-- A cancellation whose listing fails: the mark is there while it waits for the listing, and it is gone
once the failure has reached it, although the session is still tracked and its blobs are still there. -/
theorem cleanup_exclusive_cancelled :
    let start := initial {} {} ⟨0⟩
    let events : List Event := [.announce 1 ⟨"u", "f", 1, 1⟩, .begin (.cancel "u" 1)]
    let further := events ++ [.serve 0 (.refused (.storage "down")), .resume 0]
    (start.run events).CleansUp 0 0 ∧
      (start.run events).step (.announce 2 ⟨"u", "g", 1, 1⟩) = (start.run events,
        some (.announced 2 ⟨"u", "g", 1, 1⟩ (.error (Refusal.beingCleanedUp "u")))) ∧
      ∃ session, (start.run further).coordinator.find "u" = .ok (0, session) ∧
        session.purging = false := by
  intro start events further
  have cleansUp : (start.run events).CleansUp 0 0 := ⟨⟨"u", 0, none⟩, by decide +kernel, rfl⟩
  have leads : (start.run events).coordinator.tracked.get? "u" = some 0 := by decide +kernel
  have found : ∃ session ∈ (start.run events).coordinator.session? 0, True := by decide +kernel
  have valid : (start.run events).coordinator.announcementRefusal? ⟨"u", "g", 1, 1⟩ = none := by
    decide +kernel
  have leadsStill : (start.run further).coordinator.tracked.get? "u" = some 0 := by decide +kernel
  have foundStill : ∃ session ∈ (start.run further).coordinator.session? 0, True := by
    decide +kernel
  have ended : ∀ number, ((initial {} {} ⟨0⟩).run further).flights number = none := by
    have tended := (Tended.initial {} {} ⟨0⟩).run further
    have begun : ((initial {} {} ⟨0⟩).run further).begun = 1 := by decide +kernel
    intro number
    rcases Nat.eq_zero_or_pos number with rfl | later
    · exact Option.isNone_iff_eq_none.1 (by decide +kernel)
    · exact tended.guarded.coherent.fresh number (begun ▸ later)
  have idle : ∀ number, ∀ flight ∈ ((initial {} {} ⟨0⟩).run further).flights number,
      flight.call.removes = false := by
    intro number flight flies
    rw [ended number] at flies
    cases flies
  obtain ⟨session, found, -⟩ := found
  obtain ⟨remaining, foundStill, -⟩ := foundStill
  have finds := Coordinator.find_eq_ok.2 ⟨leads, found⟩
  have findsStill := Coordinator.find_eq_ok.2 ⟨leadsStill, foundStill⟩
  obtain ⟨-, marks, -⟩ := cleanup_exclusive {} {} ⟨0⟩ events
  obtain ⟨-, -, released⟩ := cleanup_exclusive {} {} ⟨0⟩ further
  exact ⟨cleansUp, (marks "u" 0 session finds).2 0 cleansUp 2 _ rfl valid,
    remaining, findsStill, released idle "u" 0 remaining findsStill⟩

end System

end Community.Upload
