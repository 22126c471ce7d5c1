/-
This file proves that nobody can take an upload from its owner, whatever the calls do between their
requests and whatever the clock shows. An identifier leads to sessions of one owner until another user
announces it, which is accepted only if the session is abandoned and nobody is cleaning up after it,
or until a sweep forgets the identifier because it held the session for abandoned when it began. A
completed session is not abandoned, and as it is locked by no call, it stays as it is until its owner
announces the identifier again.
-/

import Community.Proofs.Upload.Custody
import Community.Proofs.Upload.Lifecycle

namespace Community.Upload

namespace System

/-- In the course of some events a sweep began under a number, at a time. -/
def SweepBegan (start : System) (events : List Event) (number : Nat) (moment : Timestamp) : Prop :=
  ∃ before event, before ++ [event] <+: events ∧ event.call? = some .sweep ∧
    (start.run before).begun = number ∧ (start.run before).clock = moment

/-- An event puts a new session of its caller in the place of one that is not live, that nobody is
cleaning up after, and that is the caller's own or abandoned. -/
def Renews (system : System) (uploadId : String) (session : Session) (event : Event) : Prop :=
  ∃ user announced, event = .announce user announced ∧ announced.uploadId = uploadId ∧
    session.purging = false ∧ ¬ session.isLive system.clock ∧
    (session.userId = user ∨ session.isAbandoned system.clock) ∧
    (system.next event).coordinator.find uploadId = .ok (system.coordinator.sessions.size,
      system.coordinator.freshSession user announced system.clock)

/-- An event makes the identifier lead nowhere: a sweep has marked the session, which was abandoned
when the sweep began, and has removed its blobs. -/
def SweepsAway (start : System) (events : List Event) (uploadId : String) (place : SessionId)
    (session : Session) (event : Event) : Prop :=
  ∃ number started waiting, event = .resume number ∧ start.SweepBegan events number started ∧
    (start.run events).duty? number = some ⟨uploadId, place, some (started, waiting)⟩ ∧
    session.purging = true ∧ session.isAbandoned started ∧
    (start.run (events ++ [event])).place? uploadId = none

/-- An event takes a session from its owner: another user announces the identifier when the session is
abandoned and nobody is cleaning up after it, or a sweep forgets the identifier because the session
was abandoned. -/
def TakesAway (start : System) (events : List Event) (uploadId : String) (place : SessionId)
    (session : Session) (event : Event) : Prop :=
  (∃ user announced, event = .announce user announced ∧ announced.uploadId = uploadId ∧
    session.userId ≠ user ∧ session.purging = false ∧
    session.isAbandoned (start.run events).clock) ∨
  start.SweepsAway events uploadId place session event

end System

/-! ### One event -/

section Parts

variable {now : Timestamp} {books after : Coordinator} {call : Call} {flight : Option Flight}
  {waits : Option Pending} {uploadId : String} {place : SessionId}

/-- A part of a call leaves an identifier leading where it leads, or it is a sweep's that has worked
on the session to which it leads. -/
theorem Part.tracked_cases (part : Part now books call flight after waits)
    (leads : books.tracked.get? uploadId = some place) :
    after.tracked.get? uploadId = some place ∨
      after.tracked.get? uploadId = none ∧ ∃ held ∈ flight, ∃ started waiting,
        held.pending.duty? = some ⟨uploadId, place, some (started, waiting)⟩ := by
  have released (identifier : String) (number : SessionId) (result : Outcome Nat) :
      (books.release identifier number result).tracked.get? uploadId = some place ∨
        (books.release identifier number result).tracked.get? uploadId = none ∧
          identifier = uploadId ∧ number = place := by
    cases result with
    | error failure => exact Or.inl leads
    | ok removed =>
      unfold Coordinator.release
      dsimp only
      rw [Coordinator.get?_tracked_untrack]
      split
      · next both =>
        cases leads.symm.trans both.2
        exact Or.inr ⟨rfl, both.1, rfl⟩
      · exact Or.inl leads
  cases part with
  | ends | storeBegins | mergeBegins | mergeContinues => exact Or.inl leads
  | cancelContinues | readBegins | readContinues | sweepContinues => exact Or.inl leads
  | records | completes | cancelBegins | cancelEnds | sweepBegins => exact Or.inl leads
  | @sweepTurns _ _ identifier _ number _ _ _ _ _ _ _ result ended taken =>
    refine (released identifier number result).imp_right ?_
    rintro ⟨gone, rfl, rfl⟩
    exact ⟨gone, _, rfl, _, _, rfl⟩
  | @sweepEnds _ _ identifier number _ _ _ _ result ended =>
    refine (released identifier number result).imp_right ?_
    rintro ⟨gone, rfl, rfl⟩
    exact ⟨gone, _, rfl, _, _, rfl⟩

end Parts

namespace System

variable {system start : System} {events : List Event} {event : Event} {uploadId : String}
  {place : SessionId} {session : Session}

/-- Every sweep in progress began at the time that it takes for its own. -/
theorem sweepBegan_of_flies {config : UploadConfig} {store : Blob.Memory} {clock : Timestamp} :
    let start := initial config store clock
    ∀ number flight, (start.run events).flights number = some flight →
      ∀ uploadId place started waiting,
        flight.pending.duty? = some ⟨uploadId, place, some (started, waiting)⟩ →
          start.SweepBegan events number started := by
  intro start
  induction events using List.reverseRecOn with
  | nil =>
    intro number flight flies
    cases flies
  | append_singleton events event inductionHypothesis =>
    have earlier {number : Nat} {started : Timestamp} (began : start.SweepBegan events number started) :
        start.SweepBegan (events ++ [event]) number started := by
      obtain ⟨before, opening, among, opens, numbered, timed⟩ := began
      exact ⟨before, opening, among.trans (List.prefix_append _ _), opens, numbered, timed⟩
    rw [run_append]
    refine flights_next
      (fun number flight => ∀ uploadId place started waiting,
        flight.pending.duty? = some ⟨uploadId, place, some (started, waiting)⟩ →
          start.SweepBegan (events ++ [event]) number started)
      (fun number flight flies _ uploadId place started waiting works =>
        earlier (inductionHypothesis number flight flies _ _ _ _ works))
      (fun opens part uploadId place started waiting works => ?_)
      (fun {number fate call pending} _ waits uploadId place started waiting works =>
        earlier (inductionHypothesis number ⟨call, pending, none⟩ waits _ _ _ _ works))
      (fun {number flight books pending} flies part uploadId place started waiting works => ?_)
    · cases part with
      | storeBegins | mergeBegins | cancelBegins | readBegins => cases works
      | sweepBegins candidates taken =>
        cases works
        exact ⟨events, event, List.prefix_refl _, opens, rfl, rfl⟩
    · obtain ⟨call, held, answer⟩ := flight
      cases part with
      | mergeContinues | cancelContinues | readContinues => cases works
      | sweepContinues further =>
        exact earlier (inductionHypothesis number _ flies _ _ _ _ works)
      | sweepTurns ended taken =>
        cases works
        exact earlier (inductionHypothesis number _ flies _ _ _ _ rfl)

/-- An event leaves an identifier leading to its session, which keeps its owner, or an announcement
renews the session, or a sweep forgets the identifier. -/
theorem tracked_cases (guarded : system.Guarded) (sound : system.Sound)
    (finds : system.coordinator.find uploadId = .ok (place, session)) (event : Event) :
    (∃ after, (system.next event).coordinator.find uploadId = .ok (place, after) ∧
        after.userId = session.userId) ∨
      system.Renews uploadId session event ∨
      ∃ number started waiting, event = .resume number ∧
        system.duty? number = some ⟨uploadId, place, some (started, waiting)⟩ ∧
        session.purging = true ∧ session.isAbandoned started ∧
        (system.next event).place? uploadId = none := by
  obtain ⟨leads, found⟩ := Coordinator.find_eq_ok.1 finds
  have kept (stays : (system.next event).coordinator.tracked.get? uploadId = some place) :
      ∃ after, (system.next event).coordinator.find uploadId = .ok (place, after) ∧
        after.userId = session.userId := by
    obtain ⟨after, foundAfter, becomes⟩ := sound.carries_next event place session found
    exact ⟨after, Coordinator.find_eq_ok.2 ⟨stays, foundAfter⟩,
      (becomes (sound.sessions place session found)).1.userId⟩
  unfold Renews place?
  have moves := system.move event
  generalize system.next event = later at moves kept
  cases moves with
  | idles | ticks | serves => exact Or.inl (kept leads)
  | announces user announced =>
    rcases system.coordinator.announce_cases user announced with same | ⟨equal, -, -, yields⟩
    · exact Or.inl (kept ((congrArg (·.tracked.get? uploadId) same).trans leads))
    · by_cases named : announced.uploadId = uploadId
      · subst named
        obtain ⟨free, dead, entitled⟩ := yields place session finds
        refine Or.inr (Or.inl ⟨user, announced, rfl, rfl, free, dead, entitled, ?_⟩)
        dsimp only
        rw [equal, Coordinator.find_eq_ok]
        exact ⟨Coordinator.get?_tracked_track.trans (if_pos rfl),
          Coordinator.session?_track.trans (if_pos rfl)⟩
      · refine Or.inl (kept ((congrArg (·.1.tracked.get? uploadId) equal).trans ?_))
        exact (Coordinator.get?_tracked_track.trans (if_neg named)).trans leads
  | begins opens part =>
    rcases part.tracked_cases leads with stays | ⟨-, held, none, -⟩
    · exact Or.inl (kept stays)
    · cases none
  | @resumes number flight books waits answered part =>
    rcases part.tracked_cases leads with stays | ⟨gone, held, same, started, waiting, works⟩
    · exact Or.inl (kept stays)
    · cases same
      have takes := (duty?_of_flies answered).trans works
      obtain ⟨locked, foundLocked, marked, forsakes⟩ := guarded.locked.locks number _ takes
      cases found.symm.trans foundLocked
      exact Or.inr (Or.inr ⟨number, started, waiting, rfl, takes, marked, forsakes, gone⟩)

/-- In the course of a run, an event leaves an identifier leading to its session, which keeps its
owner, or an announcement renews the session, or a sweep forgets the identifier. -/
theorem event_cases {config : UploadConfig} {store : Blob.Memory} {clock : Timestamp} :
    let start := initial config store clock
    (start.run events).coordinator.find uploadId = .ok (place, session) → ∀ event,
      (∃ after, (start.run (events ++ [event])).coordinator.find uploadId = .ok (place, after) ∧
        after.userId = session.userId) ∨
      (start.run events).Renews uploadId session event ∨
      start.SweepsAway events uploadId place session event := by
  intro start finds event
  have runs : start.run (events ++ [event]) = (start.run events).next event :=
    run_append start events [event]
  unfold SweepsAway
  rw [runs]
  refine (tracked_cases ((Guarded.initial config store clock).run events)
    ((Sound.initial config store clock).run events) finds event).imp_right (Or.imp_right ?_)
  rintro ⟨number, started, waiting, resumes, takes, marked, abandoned, gone⟩
  obtain ⟨flight, flies, works⟩ := Option.bind_eq_some_iff.1 takes
  exact ⟨number, started, waiting, resumes, sweepBegan_of_flies number flight flies _ _ _ _ works, takes,
    marked, abandoned, gone⟩

/-! ### Completed sessions -/

/-- A completed session stays as it is, unless its owner announces the identifier and is accepted. -/
theorem Guarded.find_next_of_completed (guarded : system.Guarded)
    (finds : system.coordinator.find uploadId = .ok (place, session))
    (completed : session.status = .completed)
    (silent : ∀ announced receipt, announced.uploadId = uploadId →
      (system.step event).2 ≠ some (.announced session.userId announced (.ok receipt))) :
    (system.next event).coordinator.find uploadId = .ok (place, session) := by
  obtain ⟨leads, found⟩ := Coordinator.find_eq_ok.1 finds
  -- no call is at work on the session, so no part of a call changes it or makes the identifier lead
  -- away from it
  have parts {call : Call} {flight : Option Flight} {books : Coordinator} {waits : Option Pending}
      (part : Part system.clock system.coordinator call flight books waits)
      (others : ∀ duty ∈ flight.bind fun held => held.pending.duty?, duty.session ≠ place) :
      books.find uploadId = .ok (place, session) := by
    refine Coordinator.find_eq_ok.2 ⟨(part.tracked_iff others).2 leads, ?_⟩
    refine (part.session?_of_shut found (Or.inr completed) others).resolve_right ?_
    rintro ⟨pending, -⟩
    cases completed.symm.trans pending
  have moves := system.move event
  generalize isNext : system.next event = after at moves
  cases moves with
  | idles | ticks | serves => exact finds
  | announces user announced =>
    rcases system.coordinator.announce_cases user announced with same | ⟨equal, -, -, yields⟩
    · dsimp only
      rw [same]
      exact finds
    · have named : announced.uploadId ≠ uploadId := by
        rintro rfl
        obtain ⟨-, -, owner | abandoned⟩ := yields place session finds
        · refine silent announced (system.coordinator.freshSession user announced system.clock).receipt
            rfl ?_
          unfold step
          dsimp only
          rw [owner, equal]
        · exact Session.not_completed_of_isAbandoned abandoned completed
      dsimp only
      rw [equal, Coordinator.find_eq_ok]
      refine ⟨(Coordinator.get?_tracked_track.trans (if_neg named)).trans leads, ?_⟩
      exact (Coordinator.session?_track.trans
        (if_neg (Nat.ne_of_lt (Coordinator.lt_size_of_session? found)))).trans found
  | begins opens part => exact parts part fun _ none => by cases none
  | @resumes number flight books waits answered part =>
    refine parts part fun duty works same => ?_
    obtain ⟨locked, foundLocked, -, forsakes⟩ :=
      guarded.locked.locks number duty ((duty?_of_flies answered).trans works)
    rw [same, found] at foundLocked
    cases foundLocked
    exact forsakes.not_completed completed

theorem Guarded.find_run_of_completed {later : List Event} (guarded : system.Guarded)
    (finds : system.coordinator.find uploadId = .ok (place, session))
    (completed : session.status = .completed)
    (silent : ∀ announced receipt, announced.uploadId = uploadId →
      .announced session.userId announced (.ok receipt) ∉ system.notices later) :
    (system.run later).coordinator.find uploadId = .ok (place, session) := by
  induction later generalizing system with
  | nil => exact finds
  | cons event rest inductionHypothesis =>
    have stays : (system.next event).coordinator.find uploadId = .ok (place, session) :=
      guarded.find_next_of_completed finds completed fun announced receipt named told =>
        silent announced receipt named (List.mem_append_left _ (Option.mem_toList.2 told))
    exact inductionHypothesis (guarded.next event) stays fun announced receipt named told =>
      silent announced receipt named (List.mem_append_right _ told)

/-! ### Every run -/

/-- When the owner changes in the course of some events, one of them takes the session away. -/
theorem exists_takesAway {config : UploadConfig} {store : Blob.Memory} {clock : Timestamp}
    {later : List Event} {last : SessionId} {heir : Session} :
    let start := initial config store clock
    (start.run events).coordinator.find uploadId = .ok (place, session) →
      (start.run (events ++ later)).coordinator.find uploadId = .ok (last, heir) →
        heir.userId ≠ session.userId →
          ∃ before event rest number held, later = before ++ event :: rest ∧
            (start.run (events ++ before)).coordinator.find uploadId = .ok (number, held) ∧
            held.userId = session.userId ∧ start.TakesAway (events ++ before) uploadId number held event := by
  intro start finds findsLater differs
  induction later generalizing events place session with
  | nil =>
    rw [List.append_nil] at findsLater
    cases finds.symm.trans findsLater
    exact absurd rfl differs
  | cons event rest inductionHypothesis =>
    -- as long as the owner is the same, the event is still to come
    have goesOn {number : SessionId} {after : Session}
        (findsNext : (start.run (events ++ [event])).coordinator.find uploadId = .ok (number, after))
        (owner : after.userId = session.userId) :
        ∃ before taking others number held, event :: rest = before ++ taking :: others ∧
          (start.run (events ++ before)).coordinator.find uploadId = .ok (number, held) ∧
          held.userId = session.userId ∧
          start.TakesAway (events ++ before) uploadId number held taking := by
      obtain ⟨before, taking, others, number, held, rfl, findsHeld, same, takes⟩ :=
        inductionHypothesis findsNext (by rwa [List.append_assoc]) (owner ▸ differs)
      rw [List.append_assoc] at findsHeld takes
      exact ⟨event :: before, taking, others, number, held, rfl, findsHeld, same.trans owner, takes⟩
    have here (takes : start.TakesAway events uploadId place session event) :
        ∃ before taking others number held, event :: rest = before ++ taking :: others ∧
          (start.run (events ++ before)).coordinator.find uploadId = .ok (number, held) ∧
          held.userId = session.userId ∧
          start.TakesAway (events ++ before) uploadId number held taking := by
      refine ⟨[], event, rest, place, session, rfl, ?_, rfl, ?_⟩ <;> rwa [List.append_nil]
    rcases event_cases finds event with ⟨after, findsNext, owner⟩ |
      ⟨user, announced, isAnnounce, named, free, -, entitled, findsNext⟩ | sweeps
    · exact goesOn findsNext owner
    · by_cases own : session.userId = user
      · exact goesOn ((congrArg (·.coordinator.find uploadId) (run_append start events [event])).trans
          findsNext) own.symm
      · exact here (Or.inl ⟨user, announced, isAnnounce, named, own, free, entitled.resolve_left own⟩)
    · exact here (Or.inr sweeps)

/-- In every run an event leaves an identifier leading to its session, which keeps its owner, unless
an announcement renews the session or a sweep forgets the identifier. So the owner changes only if on
the way there another user has announced the identifier when the session was abandoned and nobody was
cleaning up after it, or a sweep has forgotten it because the session was abandoned. And a completed
session stays tracked and unchanged until its owner announces the identifier and is accepted. -/
theorem session_ownership (config : UploadConfig) (store : Blob.Memory) (clock : Timestamp)
    (events : List Event) :
    let start := initial config store clock
    ∀ uploadId place session,
      (start.run events).coordinator.find uploadId = .ok (place, session) →
      (∀ event,
        (∃ after, (start.run (events ++ [event])).coordinator.find uploadId = .ok (place, after) ∧
          after.userId = session.userId) ∨
        (start.run events).Renews uploadId session event ∨
        start.SweepsAway events uploadId place session event) ∧
      (∀ later last heir,
        (start.run (events ++ later)).coordinator.find uploadId = .ok (last, heir) →
        heir.userId ≠ session.userId →
          ∃ before event rest number held, later = before ++ event :: rest ∧
            (start.run (events ++ before)).coordinator.find uploadId = .ok (number, held) ∧
            held.userId = session.userId ∧
            start.TakesAway (events ++ before) uploadId number held event) ∧
      (session.status = .completed → ∀ later,
        (∀ announced receipt, announced.uploadId = uploadId →
          .announced session.userId announced (.ok receipt) ∉ (start.run events).notices later) →
        (start.run (events ++ later)).coordinator.find uploadId = .ok (place, session)) := by
  intro start uploadId place session finds
  have guarded := (Guarded.initial config store clock).run events
  refine ⟨fun event => ?_, fun later last heir findsLater differs => ?_, fun completed later silent => ?_⟩
  · exact event_cases finds event
  · exact exists_takesAway finds findsLater differs
  · rw [run_append]
    exact guarded.find_run_of_completed finds completed silent

/-- A session expires, and another user announces its identifier and completes the upload. Then the
first user tries to announce it and to cancel it, and a sweep goes by. -/
theorem session_ownership_renewed :
    let start := initial { sessionTtl := ⟨1000⟩ } {} ⟨0⟩
    let events : List Event := [.announce 1 ⟨"u", "f", 1, 1⟩, .tick ⟨1000⟩]
    let renewing : List Event :=
      [.announce 2 ⟨"u", "f", 1, 1⟩, .begin (.store "u" 0 "a".toUTF8), .serve 0 .answered, .resume 0,
        .begin (.merge "u"), .serve 1 .answered, .resume 1]
    let disturbing : List Event :=
      [.tick ⟨5000⟩, .announce 1 ⟨"u", "f", 1, 1⟩, .begin (.cancel "u" 1), .begin .sweep]
    (∃ before event rest number held, renewing = before ++ event :: rest ∧
      (start.run (events ++ before)).coordinator.find "u" = .ok (number, held) ∧ held.userId = 1 ∧
      start.TakesAway (events ++ before) "u" number held event) ∧
    ∃ session, session.userId = 2 ∧ session.status = .completed ∧
      (start.run (events ++ renewing ++ disturbing)).coordinator.find "u" = .ok (1, session) := by
  intro start events renewing disturbing
  have first : ∃ session ∈ (start.run events).coordinator.session? 0, session.userId = 1 := by
    decide +kernel
  have leadsFirst : (start.run events).coordinator.tracked.get? "u" = some 0 := by decide +kernel
  have second : ∃ session ∈ (start.run (events ++ renewing)).coordinator.session? 1,
      session.userId = 2 ∧ session.status = .completed := by decide +kernel
  have leadsSecond : (start.run (events ++ renewing)).coordinator.tracked.get? "u" = some 1 := by
    decide +kernel
  have callers : ((start.run (events ++ renewing)).notices disturbing).filterMap
      (fun | .announced user _ _ => some user | _ => none) = [1] := by decide +kernel
  obtain ⟨before, found, owner⟩ := first
  obtain ⟨session, foundSecond, heir, completed⟩ := second
  have finds := Coordinator.find_eq_ok.2 ⟨leadsFirst, found⟩
  have findsSecond := Coordinator.find_eq_ok.2 ⟨leadsSecond, foundSecond⟩
  obtain ⟨-, taken, -⟩ := session_ownership { sessionTtl := ⟨1000⟩ } {} ⟨0⟩ events "u" 0 before finds
  obtain ⟨-, -, kept⟩ := session_ownership { sessionTtl := ⟨1000⟩ } {} ⟨0⟩ (events ++ renewing) "u" 1
    session findsSecond
  rw [owner] at taken
  refine ⟨taken renewing 1 session findsSecond (by rw [heir]; decide), session, heir, completed,
    kept completed disturbing fun announced receipt _ told => ?_⟩
  have caller : session.userId ∈ [1] := by
    rw [← callers]
    exact List.mem_filterMap.2 ⟨_, told, rfl⟩
  exact absurd (heir.symm.trans (List.mem_singleton.1 caller)) (by decide)

end System

end Community.Upload
