/-
This file proves how long sessions last. A session is made by an announcement and expires when it is due:
when its lifetime has passed since then, or at the end of the calendar if that comes first. Nothing that
becomes of it later changes when that is. Its lifetime is the configured one as long as 64 bits with a sign
count its milliseconds; a longer one is not cut there but counts as one day, so that a session can expire
long before it is due. A caller is told that an upload has expired, an announcement puts a new session in
the place of one that is pending, and a sweep takes one up that is pending, only when the session has
expired at the clock, for a sweep at the clock when the sweep began.
-/

import Community.Proofs.Upload.Completion
import Community.Proofs.Upload.Exclusion
import Community.Proofs.Upload.Ownership

namespace Community.Upload

/-- When a session is due by a lifetime: as much later than it was made, or at the end of the calendar. -/
def Session.due (session : Session) (lifetime : Duration) : Timestamp :=
  ⟨min (session.createdAt.nanos + lifetime.nanos) Timestamp.last.nanos⟩

/-- Does a session last as long as configured? The lifetime can be added to a time, or the day that counts in
its place is more than the calendar has left. -/
def Session.Lasts (session : Session) (configured : Duration) : Prop :=
  configured.nanos ≤ longestLifetime ∨
    Timestamp.last.nanos ≤ session.createdAt.nanos + Timestamp.nanosPerDay

instance (session : Session) (configured : Duration) : Decidable (session.Lasts configured) :=
  inferInstanceAs (Decidable (_ ∨ _))

/-- What stays of a session whatever becomes of it: whose it is, and its time. -/
structure Session.KeepsTime (before after : Session) : Prop where
  uploadId : after.uploadId = before.uploadId
  userId : after.userId = before.userId
  createdAt : after.createdAt = before.createdAt
  expiresAt : after.expiresAt = before.expiresAt

instance : IsPreorder Session Session.KeepsTime where
  refl _ := ⟨rfl, rfl, rfl, rfl⟩
  trans _ _ _ earlier later :=
    ⟨later.uploadId.trans earlier.uploadId, later.userId.trans earlier.userId,
      later.createdAt.trans earlier.createdAt, later.expiresAt.trans earlier.expiresAt⟩

namespace System

/-- In the course of some events an announcement has made the session with a number; this is what has become
of that session. -/
def Announced (start : System) (events : List Event) (place : SessionId) (session : Session) : Prop :=
  ∃ before user announced, before ++ [.announce user announced] <+: events ∧
    (start.run before).coordinator.session? place = none ∧
    (start.run (before ++ [.announce user announced])).coordinator.session? place =
      some ((start.run before).coordinator.freshSession user announced (start.run before).clock) ∧
    ((start.run before).coordinator.freshSession user announced (start.run before).clock).KeepsTime session

/-- The session that an identifier leads to, or the one that a call has in hand under it. -/
def Concerns (system : System) (number : Nat) (uploadId : String) (place : SessionId) : Prop :=
  system.place? uploadId = some place ∨
    ∃ flight ∈ system.flights number, (uploadId, place) ∈ flight.pending.bindings

end System

/-! ### Lifetimes -/

section Lifetimes

variable {session : Session} {configured shorter longer : Duration}

theorem nanos_effectiveLifetime (configured : Duration) :
    (effectiveLifetime configured).nanos =
      if configured.nanos ≤ longestLifetime then configured.nanos else Timestamp.nanosPerDay := by
  unfold effectiveLifetime
  split <;> rfl

/-- A day can be added to a time. -/
theorem nanosPerDay_lt_longestLifetime : Timestamp.nanosPerDay < longestLifetime := by
  decide +kernel

theorem Timestamp.addSaturating_eq (time : Timestamp) (span : Duration) :
    time.addSaturating span = ⟨min (time.nanos + span.nanos) Timestamp.last.nanos⟩ := by
  unfold Timestamp.addSaturating
  dsimp only
  split
  · next within => rw [min_eq_left (show time.nanos + span.nanos ≤ _ from within)]
  · next beyond =>
    rw [min_eq_right (Int.le_of_lt (Int.not_le.1 (show ¬ time.nanos + span.nanos ≤ _ from beyond)))]

/-- The lifetime that counts makes a session due when the configured one does, just when it lasts as
configured. -/
theorem Session.due_effectiveLifetime_iff :
    session.due (effectiveLifetime configured) = session.due configured ↔
      session.Lasts configured := by
  have day := nanosPerDay_lt_longestLifetime
  unfold Session.due Session.Lasts
  rw [Timestamp.mk.injEq, nanos_effectiveLifetime]
  split <;> omega

/-- A longer lifetime makes a session due earlier than a shorter one just when it alone is so long that a day
counts in its place, and a day is too short. -/
theorem Session.due_effectiveLifetime_le_iff (shorterLonger : shorter.nanos ≤ longer.nanos) :
    session.due (effectiveLifetime shorter) ≤ session.due (effectiveLifetime longer) ↔
      session.Lasts longer ∨ longestLifetime < shorter.nanos ∨
        shorter.nanos ≤ Timestamp.nanosPerDay := by
  have day := nanosPerDay_lt_longestLifetime
  show (session.due _).nanos ≤ (session.due _).nanos ↔ _
  unfold Session.due Session.Lasts
  rw [nanos_effectiveLifetime, nanos_effectiveLifetime]
  split <;> split <;> dsimp only <;> omega

end Lifetimes

/-! ### The time of a session -/

theorem Part.keepsTime {now : Timestamp} {books after : Coordinator} {call : Call}
    {flight : Option Flight} {waits : Option Pending} (part : Part now books call flight after waits) :
    books.Carries Session.KeepsTime after :=
  part.carries (fun _ _ => ⟨rfl, rfl, rfl, rfl⟩) (fun _ _ _ _ _ _ _ _ => ⟨rfl, rfl, rfl, rfl⟩)
    (fun _ _ _ _ _ _ _ _ _ => ⟨rfl, rfl, rfl, rfl⟩) fun _ _ => ⟨rfl, rfl, rfl, rfl⟩

namespace System

variable {system start : System} {events : List Event} {place : SessionId} {session : Session}

theorem keepsTime_next (system : System) (event : Event) :
    system.coordinator.Carries Session.KeepsTime (system.next event).coordinator :=
  carries_next fun _ part => part.keepsTime

/-- Every session has been made by an announcement, and keeps its time. -/
theorem announced_of_session? {config : UploadConfig} {store : Blob.Memory} {clock : Timestamp} :
    let start := initial config store clock
    ∀ place session, (start.run events).coordinator.session? place = some session →
      start.Announced events place session := by
  intro start
  induction events using List.reverseRecOn with
  | nil =>
    intro place session found
    cases found
  | append_singleton events event inductionHypothesis =>
    intro place session found
    rw [run_append] at found
    cases was : (start.run events).coordinator.session? place with
    | some earlier =>
      obtain ⟨before, user, announced, among, absent, made, kept⟩ :=
        inductionHypothesis place earlier was
      obtain ⟨after, foundAfter, keeps⟩ := keepsTime_next _ event place earlier was
      cases found.symm.trans foundAfter
      exact ⟨before, user, announced, among.trans (List.prefix_append _ _), absent, made,
        trans_of Session.KeepsTime kept keeps⟩
    | none =>
      rcases session?_next found with ⟨earlier, there⟩ | ⟨user, announced, rfl, -, rfl⟩
      · cases was.symm.trans there
      · refine ⟨events, user, announced, List.prefix_refl _, was, ?_, refl_of _ _⟩
        rw [run_append]
        exact found

/-- A session expires when it is due by the lifetime that counts. -/
theorem Announced.expiresAt (announced : start.Announced events place session) :
    session.expiresAt = session.due (effectiveLifetime start.coordinator.config.sessionTtl) := by
  obtain ⟨before, user, announcement, -, -, -, kept⟩ := announced
  rw [kept.expiresAt, Session.due, kept.createdAt]
  show Timestamp.addSaturating _ (effectiveLifetime (start.run before).coordinator.config.sessionTtl) = _
  rw [Timestamp.addSaturating_eq, config_run]
  rfl

end System

/-! ### Expired sessions -/

section Refusals

variable {books : Coordinator} {now : Timestamp} {session : Session} {uploadId : String}

theorem Refusal.expired_inj {other : String} :
    Refusal.expired uploadId = Refusal.expired other ↔ uploadId = other := by
  simp [Refusal.expired]

theorem Refusal.wrongStatus_ne_expired (other : String) (status : Status) :
    Refusal.wrongStatus other status ≠ Refusal.expired uploadId := by
  intro same
  have ends := congrArg (fun text => text.toList.reverse.take 3) (ServiceError.invalidState.inj same)
  cases status <;> simp [Status.title] at ends

theorem Refusal.alreadyCompleted_ne_expired (other : String) :
    Refusal.alreadyCompleted other ≠ Refusal.expired uploadId := by
  intro same
  have ends := congrArg (fun text => text.toList.reverse.take 3) (ServiceError.invalidState.inj same)
  simp at ends

/-- A session is refused as expired when it is pending and has expired. -/
theorem Session.expired_of_refusal? (refused : session.refusal? now = some (Refusal.expired uploadId)) :
    session.uploadId = uploadId ∧ session.status = .pending ∧ session.expiresAt ≤ now := by
  unfold Session.refusal? at refused
  split at refused
  · cases refused
  · split at refused
    · next pending =>
      split at refused
      · next expired =>
        exact ⟨Refusal.expired_inj.1 (Option.some.inj refused), pending, of_decide_eq_true expired⟩
      · cases refused
    · exact absurd (Option.some.inj refused) (Refusal.wrongStatus_ne_expired _ _)

/-- A session that is abandoned and was not cancelled has expired. -/
theorem Session.expired_of_isAbandoned (abandoned : session.isAbandoned now)
    (pending : session.status = .pending) : session.expiresAt ≤ now := by
  unfold Session.isAbandoned at abandoned
  rw [pending] at abandoned
  exact of_decide_eq_true abandoned

namespace Coordinator

theorem find_ne_expired {other : String} :
    books.find other ≠ .error (Refusal.expired uploadId) := by
  unfold find
  intro fails
  split at fails
  · cases fails
  · split at fails <;> cases fails

theorem nextSweep_ne_error {started : Timestamp} {report : SweepReport}
    {queue : List (String × SessionId)} {error : ServiceError} :
    (nextSweep started report queue books).2 ≠ .done (.error error) := by
  intro fails
  rcases nextSweep_cases report queue with equal | ⟨other, number, waiting, -, equal⟩
  · rw [equal] at fails
    cases fails
  · rw [equal] at fails
    cases fails

/-- The first part of a call tells that an upload has expired if a tracked session has. -/
theorem expired_of_begin {call : Call}
    (told : (books.begin now call).2 = .done (.error (Refusal.expired uploadId))) :
    ∃ other place session, books.find other = .ok (place, session) ∧ session.uploadId = uploadId ∧
      session.status = .pending ∧ session.expiresAt ≤ now := by
  have unknown {other : String} {error : ServiceError} (fails : books.find other = .error error)
      (same : Progress.done (.error error) = .done (.error (Refusal.expired uploadId))) : False := by
    cases same
    exact find_ne_expired fails
  have refused {other : String} {place : SessionId} {session : Session} {refusal : ServiceError}
      (finds : books.find other = .ok (place, session)) (refuses : session.refusal? now = some refusal)
      (same : Progress.done (.error refusal) = .done (.error (Refusal.expired uploadId))) :
      ∃ other place session, books.find other = .ok (place, session) ∧ session.uploadId = uploadId ∧
        session.status = .pending ∧ session.expiresAt ≤ now := by
    cases same
    exact ⟨other, place, session, finds, Session.expired_of_refusal? refuses⟩
  cases call with
  | store other index data =>
    unfold begin beginStore at told
    dsimp only at told
    split at told
    · next fails => exact (unknown fails told).elim
    · next finds =>
      split at told
      · next refuses => exact refused finds refuses told
      · split at told <;> cases told
  | merge other =>
    unfold begin beginMerge at told
    dsimp only at told
    split at told
    · next fails => exact (unknown fails told).elim
    · next finds =>
      split at told
      · cases told
      · split at told
        · next refuses => exact refused finds refuses told
        · cases told
  | cancel other user =>
    unfold begin beginCancel at told
    dsimp only at told
    split at told
    · next fails => exact (unknown fails told).elim
    · split at told
      · cases told
      · split at told
        · exact absurd (Except.error.inj (Progress.done.inj told))
            (Refusal.alreadyCompleted_ne_expired other)
        · cases told
        · split at told <;> cases told
  | read other =>
    unfold begin beginRead at told
    dsimp only at told
    split at told
    · next fails => exact (unknown fails told).elim
    · split at told
      · split at told <;> cases told
      · exact absurd (Except.error.inj (Progress.done.inj told))
          (Refusal.wrongStatus_ne_expired other _)
  | sweep => exact absurd told nextSweep_ne_error

/-- The last part of a completion tells that an upload has expired if its session has. -/
theorem expired_of_continueMerge {other : String} {number total index : Nat} {missing : List Nat}
    {found : Outcome Bool}
    (told : (books.continueMerge now other number total index missing found).2 =
      .done (.error (Refusal.expired uploadId))) :
    ∃ session, books.session? number = some session ∧ session.uploadId = uploadId ∧
      session.status = .pending ∧ session.expiresAt ≤ now := by
  rw [continueMerge_eq] at told
  dsimp only at told
  generalize (if found = .ok true then missing else missing ++ [index]) = lacking at told
  split at told
  · cases told
  · unfold finishMerge at told
    split at told
    · cases told
    · split at told
      · cases told
      · next session found =>
        split at told
        · cases told
        · split at told
          · next refuses =>
            cases told
            exact ⟨session, found, Session.expired_of_refusal? refuses⟩
          · cases told

/-- A later part of a call tells that an upload has expired if its session has, or if this is what the store
has answered. -/
theorem expired_of_resume {pending : Pending} {answer : Outcome pending.request.Answer}
    (told : (books.resume now pending answer).2 = .done (.error (Refusal.expired uploadId))) :
    answer = .error (Refusal.expired uploadId) ∨
      ∃ binding ∈ pending.bindings, ∃ session, books.session? binding.2 = some session ∧
        session.uploadId = uploadId ∧ session.status = .pending ∧ session.expiresAt ≤ now := by
  cases pending with
  | store other number index data =>
    unfold resume finishStore at told
    dsimp only at told
    split at told
    · next failure =>
      exact Or.inl (congrArg _ (Except.error.inj (Progress.done.inj told)))
    · split at told
      · cases told
      · split at told
        · cases told
        · exact absurd (Except.error.inj (Progress.done.inj told))
            (Refusal.wrongStatus_ne_expired other _)
  | merge other number total index missing =>
    exact Or.inr ⟨(other, number), List.mem_singleton_self _, expired_of_continueMerge told⟩
  | cancel other number cleanup =>
    unfold resume continueCancel at told
    dsimp only at told
    split at told <;> cases told
  | read other total index assembled =>
    unfold resume continueRead at told
    dsimp only at told
    split at told
    · exact Or.inl (congrArg _ (Except.error.inj (Progress.done.inj told)))
    · split at told <;> cases told
  | sweep started other number cleanup waiting report =>
    unfold resume continueSweep at told
    dsimp only at told
    split at told
    · cases told
    · exact absurd told nextSweep_ne_error
    · exact absurd told nextSweep_ne_error

end Coordinator

end Refusals

namespace System

variable {system : System} {event : Event} {number : Nat} {call : Call} {uploadId : String}

/-- Who is told that an upload has expired has asked for a pending session that has, or the store has
answered so. -/
theorem Named.expired_of_told (named : system.Named)
    (told : (system.step event).2 = some (.returned number call (.error (Refusal.expired uploadId)))) :
    (∃ pending, system.flights number =
        some ⟨call, pending, some (.error (Refusal.expired uploadId))⟩) ∨
      ∃ place session, system.Concerns number uploadId place ∧
        system.coordinator.session? place = some session ∧ session.uploadId = uploadId ∧
        session.status = .pending ∧ session.expiresAt ≤ system.clock := by
  rcases step_returned told with ⟨-, -, ended⟩ | ⟨order, rfl, rfl⟩ | ⟨-, pending, answer, flies, ended⟩
  · obtain ⟨other, place, session, finds, rfl, pending, expired⟩ := Coordinator.expired_of_begin ended
    obtain ⟨leads, found⟩ := Coordinator.find_eq_ok.1 finds
    obtain ⟨same, foundSame, isNamed⟩ := named.tracked other place leads
    cases found.symm.trans foundSame
    subst isNamed
    exact Or.inr ⟨place, session, Or.inl leads, found, rfl, pending, expired⟩
  · unfold step at told
    dsimp only at told
    split at told
    · exact absurd (settle_snd told).2.2 Coordinator.nextSweep_ne_error
    · cases told
  · rcases Coordinator.expired_of_resume ended with rfl | ⟨⟨other, place⟩, member, session, found, rfl, rest⟩
    · exact Or.inl ⟨pending, flies⟩
    · obtain ⟨same, foundSame, isNamed⟩ := named.held number _ flies _ member
      cases found.symm.trans foundSame
      subst isNamed
      exact Or.inr ⟨place, session, Or.inr ⟨_, flies, member⟩, found, rfl, rest⟩

/-- A call that removes the blobs of a pending session is a sweep that began when the session had
expired. -/
theorem Guarded.sweeps_of_pending (guarded : system.Guarded) {duty : Duty} {session : Session}
    (takes : system.duty? number = some duty)
    (found : system.coordinator.session? duty.session = some session)
    (pending : session.status = .pending) :
    ∃ started waiting, duty.round = some (started, waiting) ∧ session.expiresAt ≤ started := by
  obtain ⟨held, foundHeld, -, forsakes⟩ := guarded.locked.locks number duty takes
  cases found.symm.trans foundHeld
  unfold Duty.Forsakes at forsakes
  split at forsakes
  · cases pending.symm.trans forsakes
  · next started waiting round =>
    exact ⟨started, waiting, round, Session.expired_of_isAbandoned forsakes pending⟩

/-- A sweep is at work on a session that it found expired when it began. -/
def Sweeps (start : System) (events : List Event) (place : SessionId) (due : Timestamp) : Prop :=
  ∃ number started, (start.run events).CleansUp number place ∧ start.SweepBegan events number started ∧
    due ≤ started

theorem sweeps_of_purging {config : UploadConfig} {store : Blob.Memory} {clock : Timestamp}
    {events : List Event} {place : SessionId} {session : Session} :
    let start := initial config store clock
    (start.run events).coordinator.find uploadId = .ok (place, session) → session.status = .pending →
      session.purging = true → start.Sweeps events place session.expiresAt := by
  intro start finds pending marked
  have tended := (Tended.initial config store clock).run events
  obtain ⟨number, duty, takes, rfl⟩ := (tended.purging_iff finds).1 marked
  obtain ⟨started, waiting, round, expired⟩ :=
    tended.guarded.sweeps_of_pending takes (Coordinator.find_eq_ok.1 finds).2 pending
  obtain ⟨flight, flies, works⟩ := Option.bind_eq_some_iff.1 takes
  obtain ⟨identifier, place, turn⟩ := duty
  subst round
  exact ⟨number, started, ⟨_, takes, rfl⟩, sweepBegan_of_flies number flight flies _ _ _ _ works, expired⟩

/-- When an event makes an identifier lead elsewhere than to a pending session, an announcement renews the
session when it has expired, or a sweep is at work on it that found it expired when it began. -/
theorem expired_of_displaced {config : UploadConfig} {store : Blob.Memory} {clock : Timestamp}
    {events : List Event} {place : SessionId} {session : Session} :
    let start := initial config store clock
    (start.run events).coordinator.find uploadId = .ok (place, session) → session.status = .pending →
      (start.run (events ++ [event])).place? uploadId ≠ some place →
      ((start.run events).Renews uploadId session event ∧
          session.expiresAt ≤ (start.run events).clock) ∨
        start.Sweeps events place session.expiresAt := by
  intro start finds pending displaced
  rcases event_cases finds event with ⟨after, finds, -⟩ | renews | sweeps
  · exact absurd (Coordinator.find_eq_ok.1 finds).1 displaced
  · obtain ⟨user, announced, isAnnounce, named, free, dead, rest⟩ := renews
    refine Or.inl ⟨⟨user, announced, isAnnounce, named, free, dead, rest⟩, ?_⟩
    refine Session.expired_of_isAbandoned (Session.isAbandoned_iff.2 ⟨dead, ?_⟩) pending
    rw [pending]
    nofun
  · obtain ⟨number, started, waiting, -, -, -, marked, -⟩ := sweeps
    exact Or.inr (sweeps_of_purging finds pending marked)

/-- In every run each session has been made by an announcement, and expires when it is due by the lifetime that
counts; that is when it is due by the configured lifetime just when the session lasts as configured. Of two
sessions made at the same time, the one with the longer configured lifetime expires earlier just when that
lifetime alone is so long that a day counts in its place. And when a session lasts as configured, nobody is told
before it is due that it has expired, no announcement puts another one in its place before it is due, and no sweep
that began before it was due works on it or forgets its identifier; as long as it is pending, nothing else does
either. -/
theorem session_expiry (config : UploadConfig) (store : Blob.Memory) (clock : Timestamp)
    (events : List Event) :
    let start := initial config store clock
    let system := start.run events
    (∀ place session, system.coordinator.session? place = some session →
      start.Announced events place session ∧
      session.expiresAt = session.due (effectiveLifetime config.sessionTtl) ∧
      (session.expiresAt = session.due config.sessionTtl ↔ session.Lasts config.sessionTtl) ∧
      ∀ (longer : UploadConfig) store clock events place other,
        ((initial longer store clock).run events).coordinator.session? place = some other →
        other.createdAt = session.createdAt → config.sessionTtl.nanos ≤ longer.sessionTtl.nanos →
        (session.expiresAt ≤ other.expiresAt ↔
          other.Lasts longer.sessionTtl ∨ longestLifetime < config.sessionTtl.nanos ∨
            config.sessionTtl.nanos ≤ Timestamp.nanosPerDay)) ∧
    (∀ event number call uploadId,
      (system.step event).2 = some (.returned number call (.error (Refusal.expired uploadId))) →
      (∃ pending, system.flights number =
          some ⟨call, pending, some (.error (Refusal.expired uploadId))⟩) ∨
        ∃ place session, system.Concerns number uploadId place ∧
          system.coordinator.session? place = some session ∧ session.uploadId = uploadId ∧
          session.status = .pending ∧
          (session.Lasts config.sessionTtl → session.due config.sessionTtl ≤ system.clock)) ∧
    ∀ uploadId place session, system.coordinator.find uploadId = .ok (place, session) →
      session.status = .pending → session.Lasts config.sessionTtl →
        (session.purging = true → start.Sweeps events place (session.due config.sessionTtl)) ∧
        ∀ event, (start.run (events ++ [event])).place? uploadId ≠ some place →
          (system.Renews uploadId session event ∧ session.due config.sessionTtl ≤ system.clock) ∨
            start.Sweeps events place (session.due config.sessionTtl) := by
  intro start system
  have ends {place : SessionId} {session : Session}
      (found : system.coordinator.session? place = some session) :
      session.expiresAt = session.due (effectiveLifetime config.sessionTtl) :=
    (announced_of_session? place session found).expiresAt
  have isDue {place : SessionId} {session : Session}
      (found : system.coordinator.session? place = some session)
      (lasts : session.Lasts config.sessionTtl) : session.expiresAt = session.due config.sessionTtl :=
    (ends found).trans (Session.due_effectiveLifetime_iff.2 lasts)
  refine ⟨fun place session found => ⟨announced_of_session? place session found, ends found, ?_, ?_⟩,
    fun event number call uploadId told => ?_, fun uploadId place session finds pending lasts => ?_⟩
  · rw [ends found]
    exact Session.due_effectiveLifetime_iff
  · intro longer otherStore otherClock otherEvents number other foundOther sameTime shorterLonger
    have otherEnds : other.expiresAt = other.due (effectiveLifetime longer.sessionTtl) :=
      (announced_of_session? number other foundOther).expiresAt
    have alike : session.expiresAt = other.due (effectiveLifetime config.sessionTtl) := by
      rw [ends found, Session.due, Session.due, sameTime]
    rw [alike, otherEnds]
    exact Session.due_effectiveLifetime_le_iff shorterLonger
  · have named := (Named.initial config store clock).run events
    rcases named.expired_of_told told with answered | ⟨place, session, concerns, found, same, pending, expired⟩
    · exact Or.inl answered
    · exact Or.inr ⟨place, session, concerns, found, same, pending,
        fun lasts => isDue found lasts ▸ expired⟩
  · have due := isDue (Coordinator.find_eq_ok.1 finds).2 lasts
    rw [← due]
    exact ⟨sweeps_of_purging finds pending, fun event => expired_of_displaced finds pending⟩

/-- A session comes to its end: its owner is told so, and another user takes its place. -/
theorem session_expiry_renewed :
    let config : UploadConfig := { sessionTtl := ⟨1000⟩ }
    let system := (initial config {} ⟨0⟩).run [.announce 1 ⟨"u", "f", 1, 1⟩, .tick ⟨1000⟩]
    (system.step (.begin (.merge "u"))).2 =
        some (.returned 0 (.merge "u") (.error (Refusal.expired "u"))) ∧
      ∃ session, system.coordinator.find "u" = .ok (0, session) ∧
        session.expiresAt = session.due config.sessionTtl ∧
        session.due config.sessionTtl ≤ system.clock ∧
        system.Renews "u" session (.announce 2 ⟨"u", "f", 1, 1⟩) := by
  intro config system
  have told : (system.step (.begin (.merge "u"))).2 =
      some (.returned 0 (.merge "u") (.error (Refusal.expired "u"))) := by decide +kernel
  have leads : system.coordinator.tracked.get? "u" = some 0 := by decide +kernel
  have there : ∃ session ∈ system.coordinator.session? 0, session.status = .pending := by decide +kernel
  have displaced : (system.next (.announce 2 ⟨"u", "f", 1, 1⟩)).place? "u" ≠ some 0 := by decide +kernel
  have begun : system.begun = 0 := by decide +kernel
  have idle (number : Nat) : system.flights number = none :=
    ((Coherent.initial config {} ⟨0⟩).run _).fresh number (begun ▸ Nat.zero_le number)
  obtain ⟨session, found, pending⟩ := there
  have finds := Coordinator.find_eq_ok.2 ⟨leads, found⟩
  have lasts : session.Lasts config.sessionTtl := Or.inl (by decide +kernel)
  obtain ⟨expiries, tells, replaced⟩ := session_expiry config {} ⟨0⟩
    [.announce 1 ⟨"u", "f", 1, 1⟩, .tick ⟨1000⟩]
  obtain ⟨-, -, exact, -⟩ := expiries 0 session found
  rcases (replaced "u" 0 session finds pending lasts).2 _ displaced with ⟨renews, -⟩ | sweeps
  · rcases tells _ 0 (.merge "u") "u" told with ⟨waits, flies⟩ | ⟨place, same, concerns, foundSame, -, -, passed⟩
    · cases (idle 0).symm.trans flies
    · rcases concerns with leadsSame | ⟨flight, flies, -⟩
      · cases leads.symm.trans leadsSame
        cases found.symm.trans foundSame
        exact ⟨told, session, finds, exact.2 lasts, passed lasts, renews⟩
      · cases (idle 0).symm.trans flies
  · obtain ⟨number, started, ⟨duty, takes, -⟩, -⟩ := sweeps
    obtain ⟨flight, flies, -⟩ := Option.bind_eq_some_iff.1 takes
    cases (idle number).symm.trans flies

/-- With a lifetime of more milliseconds than 64 bits with a sign count, a session expires after a day. -/
theorem session_expiry_oversized :
    let config : UploadConfig := { sessionTtl := .ofSeconds 9223372036854776 }
    let system := (initial config {} ⟨0⟩).run
      [.announce 1 ⟨"u", "f", 1, 1⟩, .tick ⟨Timestamp.nanosPerDay⟩]
    (∃ session ∈ system.coordinator.session? 0, system.clock < session.due config.sessionTtl) ∧
      (system.step (.begin (.store "u" 0 "a".toUTF8))).2 =
        some (.returned 0 (.store "u" 0 "a".toUTF8) (.error (Refusal.expired "u"))) := by
  decide +kernel

end System

end Community.Upload
