/-
This file proves what holds of the books and the calls in progress at every moment of every run whose clock
does not go back. An identifier leads to a session of its own name, and a session that is live is the one that
its identifier leads to. A session whose blobs are being removed is marked and abandoned, and only one call at
a time is at work on it: the mark is a lock. It is what keeps an announcement from putting a new session in
the place of one whose blobs are going.
-/

import Community.Proofs.Upload.Evolution

namespace Community.Upload

/-! ### The invariant -/

/-- The session of a duty is its identifier's, marked as being cleaned up, and abandoned. -/
def Duty.Holds (duty : Duty) (now : Timestamp) (books : Coordinator) : Prop :=
  ∃ session, books.session? duty.session = some session ∧ session.uploadId = duty.uploadId ∧
    session.purging = true ∧ session.isAbandoned now

/-- The round of a sweep began in the past, with sessions under the identifiers to which they belong. -/
def Duty.Queues (duty : Duty) (now : Timestamp) (books : Coordinator) : Prop :=
  ∀ started queue, duty.round = some (started, queue) →
    started ≤ now ∧ ∀ binding ∈ queue, books.Names binding.1 binding.2

/-- The books are in order, and so are the duties that calls have taken on. -/
structure Orderly (now : Timestamp) (books : Coordinator) (duties : Nat → Option Duty) : Prop where
  /-- An identifier leads to a session of its own. -/
  known : ∀ uploadId number, books.tracked.get? uploadId = some number →
    books.Names uploadId number
  /-- A live session is tracked. -/
  live : ∀ number session, books.session? number = some session → session.isLive now →
    books.tracked.get? session.uploadId = some number
  held : ∀ call duty, duties call = some duty → duty.Holds now books
  /-- No two calls work on one session. -/
  alone : ∀ call other duty second, duties call = some duty → duties other = some second →
    duty.session = second.session → call = other
  queued : ∀ call duty, duties call = some duty → duty.Queues now books

/-- The identifier and the session that a call in progress holds on to. -/
def Pending.handle? : Pending → Option (String × SessionId)
  | .store uploadId session _ _ => some (uploadId, session)
  | .merge uploadId session .. => some (uploadId, session)
  | .cancel uploadId session _ => some (uploadId, session)
  | .read .. => none
  | .sweep _ uploadId session .. => some (uploadId, session)

/-- The session to which an identifier leads. -/
def System.place? (system : System) (uploadId : String) : Option SessionId :=
  system.coordinator.tracked.get? uploadId

/-- What a call in progress holds on to, by the number of the call. -/
def System.handle? (system : System) (number : Nat) : Option (String × SessionId) :=
  (system.flights number).bind fun flight => flight.pending.handle?

/-- The duty of a call in progress, by the number of the call. -/
def System.duty? (system : System) (number : Nat) : Option Duty :=
  (system.flights number).bind fun flight => flight.pending.duty?

/-- The books and the calls in progress are in order. -/
structure System.InOrder (system : System) : Prop where
  orderly : Orderly system.clock system.coordinator system.duty?
  coherent : system.Coherent
  /-- A call holds on to a session of its own identifier. -/
  holding : ∀ number flight, system.flights number = some flight →
    ∀ handle ∈ flight.pending.handle?, system.coordinator.Names handle.1 handle.2

theorem Coordinator.Names.modify {books : Coordinator} {uploadId : String} {place number : SessionId}
    {change : Session → Session} (names : books.Names uploadId place)
    (name : ∀ session, (change session).uploadId = session.uploadId) :
    (books.modify number change).Names uploadId place := by
  obtain ⟨session, found, named⟩ := names
  by_cases same : number = place
  · subst same
    exact ⟨_, session?_modify_self found, (name session).trans named⟩
  · exact ⟨session, (session?_modify_of_ne same).trans found, named⟩

namespace Orderly

variable {now later : Timestamp} {books : Coordinator} {duties : Nat → Option Duty}
  {call : Nat} {duty : Duty} {number : SessionId} {session : Session}

/-! ### What keeps the order -/

/-- Time passes. -/
theorem pass (order : Orderly now books duties) (passes : now ≤ later) :
    Orderly later books duties where
  known := order.known
  live number session found alive :=
    order.live number session found (Session.isLive_anti passes alive)
  held call duty takes := by
    obtain ⟨session, found, named, purging, abandoned⟩ := order.held call duty takes
    exact ⟨session, found, named, purging, Session.isAbandoned_mono passes abandoned⟩
  alone := order.alone
  queued call duty takes started queue round := by
    have queues := order.queued call duty takes started queue round
    exact ⟨Timestamp.le_trans queues.1 passes, queues.2⟩

/-- A call gives up its duty. -/
theorem drop (order : Orderly now books duties) :
    Orderly now books (Function.update duties call none) := by
  have kept {other : Nat} {duty : Duty} (takes : Function.update duties call none other = some duty) :
      duties other = some duty := by
    by_cases same : other = call
    · subst same
      rw [Function.update_self] at takes
      cases takes
    · rwa [Function.update_of_ne same] at takes
  exact {
    known := order.known
    live := order.live
    held := fun other duty takes => order.held other duty (kept takes)
    alone := fun first second duty next takes takesNext =>
      order.alone first second duty next (kept takes) (kept takesNext)
    queued := fun other duty takes => order.queued other duty (kept takes) }

/-- A call takes on a session on which no other call works. -/
theorem take (order : Orderly now books duties)
    (free : ∀ other second, duties other = some second → second.session ≠ duty.session)
    (holds : duty.Holds now books) (queues : duty.Queues now books) :
    Orderly now books (Function.update duties call (some duty)) := by
  have either {other : Nat} {second : Duty}
      (takes : Function.update duties call (some duty) other = some second) :
      other = call ∧ second = duty ∨ duties other = some second := by
    by_cases same : other = call
    · subst same
      rw [Function.update_self] at takes
      exact Or.inl ⟨rfl, (Option.some.inj takes).symm⟩
    · rw [Function.update_of_ne same] at takes
      exact Or.inr takes
  refine ⟨order.known, order.live, ?_, ?_, ?_⟩
  · intro other second takes
    rcases either takes with ⟨-, rfl⟩ | before
    · exact holds
    · exact order.held other second before
  · intro first other one two takesOne takesTwo same
    rcases either takesOne with ⟨rfl, rfl⟩ | beforeOne <;>
      rcases either takesTwo with ⟨rfl, rfl⟩ | beforeTwo
    · rfl
    · exact absurd same.symm (free other two beforeTwo)
    · exact absurd same (free first one beforeOne)
    · exact order.alone first other one two beforeOne beforeTwo same
  · intro other second takes
    rcases either takes with ⟨-, rfl⟩ | before
    · exact queues
    · exact order.queued other second before

/-- A session is changed: neither its name nor, while it is being cleaned up, its mark, and it does not come
to life. -/
theorem modify (order : Orderly now books duties) (change : Session → Session)
    (found : books.session? number = some session)
    (name : ∀ session, (change session).uploadId = session.uploadId)
    (alive : (change session).isLive now → session.isLive now)
    (marked : ∀ call duty, duties call = some duty → duty.session = number →
      session.purging = true → session.isAbandoned now →
        (change session).purging = true ∧ (change session).isAbandoned now) :
    Orderly now (books.modify number change) duties := by
  refine ⟨?_, ?_, ?_, order.alone, ?_⟩
  · intro uploadId place tracked
    exact (order.known uploadId place tracked).modify name
  · intro place after here living
    obtain ⟨before, was, becomes⟩ := Coordinator.session?_modify_eq_some here
    by_cases same : number = place
    · subst same
      rw [if_pos rfl] at becomes
      rw [found] at was
      cases was
      subst becomes
      rw [name]
      exact order.live number session found (alive living)
    · rw [if_neg same] at becomes
      subst becomes
      exact order.live place after was living
  · intro call duty takes
    obtain ⟨before, was, named, purging, abandoned⟩ := order.held call duty takes
    by_cases same : number = duty.session
    · have isSession : before = session :=
        Option.some.inj (was.symm.trans (same ▸ found))
      subst isSession
      have still := marked call duty takes same.symm purging abandoned
      refine ⟨change before, ?_, (name before).trans named, still.1, still.2⟩
      rw [← same]
      exact Coordinator.session?_modify_self found
    · exact ⟨before, (Coordinator.session?_modify_of_ne same).trans was, named, purging, abandoned⟩
  · intro call duty takes started queue round
    have queues := order.queued call duty takes started queue round
    exact ⟨queues.1, fun binding member => (queues.2 binding member).modify name⟩

/-- A session that is not being cleaned up is no call's duty. -/
theorem not_duty_of_free (order : Orderly now books duties)
    (found : books.session? number = some session) (free : session.purging = false) :
    ∀ call duty, duties call = some duty → duty.session ≠ number := by
  rintro call duty takes rfl
  obtain ⟨held, here, -, purging, -⟩ := order.held call duty takes
  rw [found] at here
  cases here
  rw [free] at purging
  cases purging

/-- A session that is not being cleaned up is changed, and does not come to life. -/
theorem modify_free (order : Orderly now books duties) (change : Session → Session)
    (found : books.session? number = some session) (free : session.purging = false)
    (name : ∀ session, (change session).uploadId = session.uploadId)
    (alive : (change session).isLive now → session.isLive now) :
    Orderly now (books.modify number change) duties :=
  order.modify change found name alive fun call duty takes same =>
    absurd same (order.not_duty_of_free found free call duty takes)

/-- A call takes on a session that is free and becomes marked and abandoned. -/
theorem mark (order : Orderly now books duties) (duty : Duty) (change : Session → Session)
    (found : books.session? duty.session = some session) (free : session.purging = false)
    (named : session.uploadId = duty.uploadId)
    (name : ∀ session, (change session).uploadId = session.uploadId)
    (marks : (change session).purging = true) (abandons : (change session).isAbandoned now)
    (queues : duty.Queues now books) :
    Orderly now (books.modify duty.session change)
      (Function.update duties call (some duty)) := by
  have dead : (change session).isLive now → session.isLive now := fun alive =>
    absurd alive (Session.isAbandoned_iff.1 abandons).1
  refine (order.modify_free change found free name dead).take
    (fun other second takes => order.not_duty_of_free found free other second takes) ?_ ?_
  · exact ⟨change session, Coordinator.session?_modify_self found, (name session).trans named,
      marks, abandons⟩
  · intro started queue round
    have before := queues started queue round
    exact ⟨before.1, fun binding member => (before.2 binding member).modify name⟩

/-- An identifier is forgotten that led to a session whose blobs were being removed. -/
theorem untrack (order : Orderly now books duties) (takes : duties call = some duty) :
    Orderly now (books.untrack duty.uploadId duty.session) duties := by
  refine ⟨?_, ?_, ?_, order.alone, ?_⟩
  · intro uploadId place tracked
    rw [Coordinator.get?_tracked_untrack] at tracked
    split at tracked
    · cases tracked
    · exact (order.known uploadId place tracked).grows Coordinator.grows_untrack
  · intro place session found alive
    rw [Coordinator.session?_untrack] at found
    have tracked := order.live place session found alive
    rw [Coordinator.get?_tracked_untrack, if_neg]
    · exact tracked
    · rintro ⟨same, elsewhere⟩
      rw [tracked] at elsewhere
      cases elsewhere
      obtain ⟨held, here, -, -, abandoned⟩ := order.held call duty takes
      rw [found] at here
      cases here
      exact (Session.isAbandoned_iff.1 abandoned).1 alive
  · intro other second takesOther
    obtain ⟨session, found, rest⟩ := order.held other second takesOther
    exact ⟨session, (Coordinator.session?_untrack).trans found, rest⟩
  · intro other second takesOther started queue round
    have queues := order.queued other second takesOther started queue round
    exact ⟨queues.1, fun binding member =>
      (queues.2 binding member).grows Coordinator.grows_untrack⟩

/-- A call ends its work on a session and gives up its duty. -/
theorem release (order : Orderly now books duties) (takes : duties call = some duty)
    (result : Outcome Nat) :
    Orderly now (books.release duty.uploadId duty.session result)
      (Function.update duties call none) := by
  cases result with
  | ok removed => exact (order.untrack takes).drop
  | error failure =>
    obtain ⟨session, found, -, -, -⟩ := order.held call duty takes
    refine order.drop.modify _ found (fun _ => rfl) (fun alive => alive) ?_
    intro other second takesOther same
    by_cases self : other = call
    · subst self
      rw [Function.update_self] at takesOther
      cases takesOther
    · rw [Function.update_of_ne self] at takesOther
      exact absurd (order.alone other call second duty takesOther takes same) self

/-- A new session is tracked in the place of one that is not live. -/
theorem track (order : Orderly now books duties)
    (yields : ∀ number old, books.find session.uploadId = .ok (number, old) →
      ¬ old.isLive now) :
    Orderly now (books.track session) duties := by
  refine ⟨?_, ?_, ?_, order.alone, ?_⟩
  · intro uploadId place tracked
    rw [Coordinator.get?_tracked_track] at tracked
    split at tracked
    · next same =>
      cases tracked
      refine ⟨session, ?_, same⟩
      rw [Coordinator.session?_track, if_pos rfl]
    · exact (order.known uploadId place tracked).grows Coordinator.grows_track
  · intro place after found alive
    rw [Coordinator.session?_track] at found
    rw [Coordinator.get?_tracked_track]
    split at found
    · next new =>
      cases found
      rw [if_pos rfl, new]
    · have tracked := order.live place after found alive
      rw [if_neg, tracked]
      intro same
      exact yields place after (Coordinator.find_eq_ok.2 ⟨same ▸ tracked, found⟩) alive
  · intro call duty takes
    obtain ⟨held, found, rest⟩ := order.held call duty takes
    refine ⟨held, ?_, rest⟩
    rw [Coordinator.session?_track,
      if_neg (Nat.ne_of_lt (Coordinator.lt_size_of_session? found)), found]
  · intro call duty takes started queue round
    have queues := order.queued call duty takes started queue round
    exact ⟨queues.1, fun binding member =>
      (queues.2 binding member).grows Coordinator.grows_track⟩

/-! ### Every event keeps the order -/

theorem names_of_find (order : Orderly now books duties) {uploadId : String}
    (found : books.find uploadId = .ok (number, session)) : books.Names uploadId number :=
  order.known uploadId number (Coordinator.find_eq_ok.1 found).1

/-- The abandoned sessions are those of the identifiers that lead to them. -/
theorem names_of_abandoned (order : Orderly now books duties) {binding : String × SessionId}
    (abandoned : binding ∈ books.abandoned now) : books.Names binding.1 binding.2 :=
  order.known _ _ (Table.get?_eq_some_iff.2 (List.mem_filter.1 abandoned).1)

/-- Whatever part of a call comes next keeps the order. -/
theorem part (order : Orderly now books duties) {made : Call} {flight : Option Flight}
    {after : Coordinator} {waits : Option Pending} (part : Part now books made flight after waits)
    (stands : duties call = flight.bind fun held => held.pending.duty?) :
    Orderly now after (Function.update duties call (waits.bind Pending.duty?)) := by
  cases part with
  | ends free => exact order.drop
  | storeBegins found accepts inRange => exact order.drop
  | mergeBegins found accepts => exact order.drop
  | mergeContinues further => exact order.drop
  | readBegins found completed nonempty => exact order.drop
  | readContinues further => exact order.drop
  | records found pending =>
    exact (order.modify (·.record _ now) found (fun _ => rfl) (fun alive => alive)
      fun _ _ _ _ purging abandoned => ⟨purging, abandoned⟩).drop
  | completes last found accepts =>
    have free := (Session.refusal?_eq_none.1 accepts).1
    refine (order.modify_free (·.complete now) found free (fun _ => rfl) fun alive => ?_).drop
    cases (Session.isLive_iff.1 alive).1
  | @cancelBegins uploadId number session found pending free =>
    obtain ⟨tracked, here⟩ := Coordinator.find_eq_ok.1 found
    obtain ⟨same, alsoHere, named⟩ := order.known uploadId number tracked
    rw [here] at alsoHere
    cases alsoHere
    exact order.mark ⟨uploadId, number, none⟩ (·.cancel now) here free named (fun _ => rfl) rfl rfl
      fun started queue round => by cases round
  | cancelContinues further =>
    -- The duty stays as it is, so the update of the duties changes nothing.
    refine cast (congrArg _ ?_) order
    exact (Function.update_eq_self_iff.2 stands.symm).symm
  | cancelEnds ended => exact order.release stands (.error .serialization)
  | @sweepBegins queue waiting uploadId number report candidates taken =>
    obtain ⟨session, here, abandoned, free⟩ := taken.free
    have names : ∀ binding ∈ (uploadId, number) :: waiting, books.Names binding.1 binding.2 :=
      fun binding member =>
        order.names_of_abandoned (candidates.mem_iff.1 (taken.suffix.subset member))
    obtain ⟨same, alsoHere, named⟩ := names _ List.mem_cons_self
    rw [here] at alsoHere
    cases alsoHere
    refine order.mark ⟨uploadId, number, some (now, waiting)⟩
      (fun session => { session with purging := true }) here free named (fun _ => rfl) rfl
      abandoned fun started queue round => ?_
    cases round
    exact ⟨Timestamp.le_refl now, fun binding member =>
      names binding (List.mem_cons_of_mem _ member)⟩
  | sweepContinues further =>
    refine cast (congrArg _ ?_) order
    exact (Function.update_eq_self_iff.2 stands.symm).symm
  | @sweepTurns made started uploadId other number turn queue waiting report after cleanup answer
      result ended taken =>
    have queues := order.queued call _ stands started queue rfl
    obtain ⟨session, here, abandoned, free⟩ := taken.free
    have names : ∀ binding ∈ (other, turn) :: waiting,
        (books.release uploadId number result).Names binding.1 binding.2 :=
      fun binding member => (queues.2 binding (taken.suffix.subset member)).grows
        (Coordinator.grows_release result)
    obtain ⟨same, alsoHere, named⟩ := names _ List.mem_cons_self
    rw [here] at alsoHere
    cases alsoHere
    have released := order.release stands result
    rw [← Function.update_idem]
    refine released.mark ⟨other, turn, some (started, waiting)⟩
      (fun session => { session with purging := true }) here free named (fun _ => rfl) rfl
      (Session.isAbandoned_mono queues.1 abandoned) fun began rest round => ?_
    cases round
    exact ⟨queues.1, fun binding member => names binding (List.mem_cons_of_mem _ member)⟩
  | sweepEnds ended => exact order.release stands _

/-- What a call holds on to after one of its parts is a session of its identifier. -/
theorem holding (order : Orderly now books duties) {made : Call} {flight : Option Flight}
    {after : Coordinator} {pending : Pending}
    (part : Part now books made flight after (some pending))
    (stands : duties call = flight.bind fun held => held.pending.duty?)
    (held : ∀ held ∈ flight, ∀ handle ∈ held.pending.handle?, books.Names handle.1 handle.2) :
    ∀ handle ∈ pending.handle?, books.Names handle.1 handle.2 := by
  intro handle holds
  cases part with
  | readBegins | readContinues => cases holds
  | mergeContinues | cancelContinues | sweepContinues => exact held _ rfl handle holds
  | storeBegins found accepts inRange =>
    cases holds
    exact order.names_of_find found
  | mergeBegins found accepts =>
    cases holds
    exact order.names_of_find found
  | cancelBegins found pending free =>
    cases holds
    exact order.names_of_find found
  | sweepBegins candidates taken =>
    cases holds
    exact order.names_of_abandoned
      (candidates.mem_iff.1 (taken.suffix.subset List.mem_cons_self))
  | sweepTurns ended taken =>
    cases holds
    have queues := order.queued call _ stands _ _ rfl
    exact queues.2 _ (taken.suffix.subset List.mem_cons_self)

end Orderly

namespace System

variable {system : System} {event : Event} {events : List Event}

/-- With one entry changed, the duties are the same but for one. -/
theorem duty?_update {changed : System} {number : Nat} {flight : Option Flight}
    (others : changed.flights = Function.update system.flights number flight) :
    changed.duty? = Function.update system.duty? number
      (flight.bind fun held => held.pending.duty?) := by
  funext call
  unfold duty?
  rw [others]
  by_cases same : call = number
  · subst same
    rw [Function.update_self, Function.update_self]
  · rw [Function.update_of_ne same, Function.update_of_ne same]

/-- After a part of a call the duties are the same but for its own. -/
theorem duty?_of_part {changed : System} {number : Nat} {call : Call} {waits : Option Pending}
    (others : changed.flights = Function.update system.flights number
      (waits.map fun pending => { call, pending })) :
    changed.duty? = Function.update system.duty? number (waits.bind Pending.duty?) := by
  rw [duty?_update others]
  cases waits <;> rfl

theorem duty?_of_flies {number : Nat} {flight : Flight}
    (flies : system.flights number = some flight) :
    system.duty? number = (some flight).bind fun held => held.pending.duty? := by
  unfold duty?
  rw [flies]

namespace InOrder

theorem initial (config : UploadConfig) (store : Blob.Memory) (clock : Timestamp) :
    (System.initial config store clock).InOrder where
  orderly := {
    known := fun _ _ tracked => by cases tracked
    live := fun _ _ found => by cases found
    held := fun _ _ takes => by cases takes
    alone := fun _ _ _ _ takes => by cases takes
    queued := fun _ _ takes => by cases takes }
  coherent := .initial config store clock
  holding _ _ flies := by cases flies

theorem duty?_begun (order : system.InOrder) : system.duty? system.begun = none := by
  unfold duty?
  rw [order.coherent.fresh system.begun (Nat.le_refl _)]
  rfl

theorem holding_next (order : system.InOrder) (event : Event) :
    ∀ number flight, (system.next event).flights number = some flight →
      ∀ handle ∈ flight.pending.handle?,
        (system.next event).coordinator.Names handle.1 handle.2 := by
  refine flights_next
    (fun _ flight => ∀ handle ∈ flight.pending.handle?,
      (system.next event).coordinator.Names handle.1 handle.2)
    (fun number flight flies _ handle holds => ?_) (fun _ part handle holds => ?_)
    (fun _ waits handle holds => ?_) (fun flies part handle holds => ?_)
  all_goals refine Coordinator.Names.grows ?_ (system.grows_next event)
  · exact order.holding number flight flies handle holds
  · exact order.orderly.holding part (order.duty?_begun) (fun _ none => by cases none) handle holds
  · exact order.holding _ _ waits handle holds
  · exact order.orderly.holding part (duty?_of_flies flies)
      (fun _ same => by cases same; exact order.holding _ _ flies) handle holds

/-- An event keeps the system in order, if it does not set the clock back. -/
theorem next (order : system.InOrder) (forward : system.Forward event) :
    (system.next event).InOrder := by
  refine ⟨?_, order.coherent.next event, holding_next order event⟩
  have moves := system.move event
  generalize system.next event = after at moves
  cases moves with
  | idles => exact order.orderly
  | ticks now => exact order.orderly.pass forward
  | announces user announced =>
    dsimp only
    rcases system.coordinator.announce_cases user announced with same | ⟨equal, -, -, yields⟩
    · rw [same]
      exact order.orderly
    · rw [equal]
      exact order.orderly.track fun number old found => (yields number old found).2.1
  | begins opens part =>
    rw [duty?_of_part rfl]
    exact order.orderly.part part order.duty?_begun
  | serves waits =>
    rw [duty?_update rfl]
    refine cast (congrArg _ (Function.update_eq_self_iff.2 ?_).symm) order.orderly
    exact (duty?_of_flies waits).symm
  | resumes answered part =>
    rw [duty?_of_part rfl]
    exact order.orderly.part part (duty?_of_flies answered)

/-- A run whose clock does not go back keeps the system in order. -/
theorem run (order : system.InOrder) (forward : system.Obeys Forward events) :
    (system.run events).InOrder :=
  Obeys.keeps next order forward

theorem of_reachable (reachable : system.Reachable Forward) : system.InOrder :=
  reachable.holds initial next

end InOrder

end System

end Community.Upload
