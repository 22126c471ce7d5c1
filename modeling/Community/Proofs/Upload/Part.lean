/-
This file says once what one part of a call can do: which answer it starts from, what it finds in the books,
what it changes there, and what the call waits for afterwards. Every later fact about runs is read off these
cases. A call that removes blobs has a duty: the identifier and the session it works on and, if it is a sweep,
its round: when it began and the sessions that wait for their turn.
-/

import Community.Proofs.Upload.Books
import Community.Proofs.Upload.System

namespace Community.Upload

/-- The removal of an upload's blobs that a call has taken on. -/
structure Duty where
  uploadId : String
  session : SessionId
  /-- For a sweep, when it began and what it has still to take up. -/
  round : Option (Timestamp × List (String × SessionId))
  deriving DecidableEq

/-- The duty of a call in progress. -/
def Pending.duty? : Pending → Option Duty
  | .cancel uploadId session _ => some ⟨uploadId, session, none⟩
  | .sweep started uploadId session _ waiting _ =>
    some ⟨uploadId, session, some (started, waiting)⟩
  | _ => none

/-- What a call waits for after one of its parts, if it is not over. -/
def Progress.pending? : Progress → Option Pending
  | .waiting call => some call
  | .done _ => none

/-- The first session of a queue that a sweep takes up, with those that come after it. -/
structure TakesUp (books : Coordinator) (started : Timestamp) (queue : List (String × SessionId))
    (uploadId : String) (number : SessionId) (waiting : List (String × SessionId)) : Prop where
  suffix : (uploadId, number) :: waiting <:+ queue
  free : ∃ session, books.session? number = some session ∧ session.isAbandoned started ∧
    session.purging = false

/-- One part of a call on the books, from its answer to its next request. The call stands nowhere before its
first part and after its last. -/
inductive Part (now : Timestamp) (books : Coordinator) :
    Call → Option Flight → Coordinator → Option Pending → Prop
  /-- A call that has no blobs to remove ends and leaves the books as they are. -/
  | ends {call : Call} {flight : Option Flight}
      (free : ∀ held ∈ flight, held.pending.duty? = none) :
      Part now books call flight books none
  | storeBegins {uploadId : String} {index number : Nat} {data : ByteArray} {session : Session}
      (found : books.find uploadId = .ok (number, session))
      (accepts : session.refusal? now = none) (inRange : index < session.totalChunks) :
      Part now books (.store uploadId index data) none books
        (some (.store uploadId number index data))
  | records {call : Call} {uploadId : String} {index number : Nat} {data : ByteArray}
      {session : Session} (found : books.session? number = some session)
      (pending : session.status = .pending) :
      Part now books call (some ⟨call, .store uploadId number index data, some (.ok ())⟩)
        (books.modify number (·.record index now)) none
  | mergeBegins {uploadId : String} {number : Nat} {session : Session}
      (found : books.find uploadId = .ok (number, session))
      (accepts : session.refusal? now = none) :
      Part now books (.merge uploadId) none books
        (some (.merge uploadId number session.totalChunks 0 []))
  | mergeContinues {call : Call} {uploadId : String} {number total index : Nat}
      {missing : List Nat} {found : Outcome Bool} (further : index + 1 < total) :
      Part now books call (some ⟨call, .merge uploadId number total index missing, some found⟩)
        books (some (.merge uploadId number total (index + 1)
          (if found = .ok true then missing else missing ++ [index])))
  | completes {call : Call} {uploadId : String} {number total index : Nat} {session : Session}
      (last : total ≤ index + 1) (found : books.session? number = some session)
      (accepts : session.refusal? now = none) :
      Part now books call (some ⟨call, .merge uploadId number total index [], some (.ok true)⟩)
        (books.modify number (·.complete now)) none
  | cancelBegins {uploadId : String} {number : Nat} {session : Session}
      (found : books.find uploadId = .ok (number, session)) (pending : session.status = .pending)
      (free : session.purging = false) :
      Part now books (.cancel uploadId session.userId) none (books.modify number (·.cancel now))
        (some (.cancel uploadId number (.listing uploadId)))
  | cancelContinues {call : Call} {uploadId : String} {number : Nat} {cleanup rest : Cleanup}
      {answer : Outcome cleanup.request.Answer} (further : cleanup.resume answer = .inl rest) :
      Part now books call (some ⟨call, .cancel uploadId number cleanup, some answer⟩) books
        (some (.cancel uploadId number rest))
  | cancelEnds {call : Call} {uploadId : String} {number : Nat} {cleanup : Cleanup}
      {answer : Outcome cleanup.request.Answer} {result : Outcome Nat}
      (ended : cleanup.resume answer = .inr result) :
      Part now books call (some ⟨call, .cancel uploadId number cleanup, some answer⟩)
        (books.endPurge number) none
  | readBegins {uploadId : String} {number : Nat} {session : Session}
      (found : books.find uploadId = .ok (number, session))
      (completed : session.status = .completed) (nonempty : session.totalChunks ≠ 0) :
      Part now books (.read uploadId) none books
        (some (.read uploadId session.totalChunks 0 .empty))
  | readContinues {call : Call} {uploadId : String} {total index : Nat}
      {assembled data : ByteArray} (further : index + 1 < total) :
      Part now books call (some ⟨call, .read uploadId total index assembled, some (.ok data)⟩)
        books (some (.read uploadId total (index + 1) (assembled ++ data)))
  | sweepBegins {queue waiting : List (String × SessionId)} {uploadId : String} {number : Nat}
      {report : SweepReport} (candidates : queue.Perm (books.abandoned now))
      (taken : TakesUp books now queue uploadId number waiting) :
      Part now books .sweep none (books.beginPurge number)
        (some (.sweep now uploadId number (.listing uploadId) waiting report))
  | sweepContinues {call : Call} {started : Timestamp} {uploadId : String} {number : Nat}
      {waiting : List (String × SessionId)} {report : SweepReport} {cleanup rest : Cleanup}
      {answer : Outcome cleanup.request.Answer} (further : cleanup.resume answer = .inl rest) :
      Part now books call
        (some ⟨call, .sweep started uploadId number cleanup waiting report, some answer⟩) books
        (some (.sweep started uploadId number rest waiting report))
  | sweepTurns {call : Call} {started : Timestamp} {uploadId other : String}
      {number turn : Nat} {queue waiting : List (String × SessionId)}
      {report after : SweepReport} {cleanup : Cleanup} {answer : Outcome cleanup.request.Answer}
      {result : Outcome Nat} (ended : cleanup.resume answer = .inr result)
      (taken : TakesUp (books.release uploadId number result) started queue other turn waiting) :
      Part now books call
        (some ⟨call, .sweep started uploadId number cleanup queue report, some answer⟩)
        ((books.release uploadId number result).beginPurge turn)
        (some (.sweep started other turn (.listing other) waiting after))
  | sweepEnds {call : Call} {started : Timestamp} {uploadId : String} {number : Nat}
      {queue : List (String × SessionId)} {report : SweepReport} {cleanup : Cleanup}
      {answer : Outcome cleanup.request.Answer} {result : Outcome Nat}
      (ended : cleanup.resume answer = .inr result) :
      Part now books call
        (some ⟨call, .sweep started uploadId number cleanup queue report, some answer⟩)
        (books.release uploadId number result) none

namespace Coordinator

variable {books : Coordinator} {now started : Timestamp}

/-! ### Sweeps -/

/-- A sweep passes over sessions that it need not take up, and takes up the first that it must. -/
theorem nextSweep_cases (report : SweepReport) (queue : List (String × SessionId)) :
    nextSweep started report queue books = (books, .done (.ok (.swept report))) ∨
      ∃ uploadId number waiting, TakesUp books started queue uploadId number waiting ∧
        nextSweep started report queue books =
          (books.beginPurge number,
            .waiting (.sweep started uploadId number (.listing uploadId) waiting report)) := by
  induction queue with
  | nil => exact Or.inl rfl
  | cons binding rest inductionHypothesis =>
    obtain ⟨uploadId, number⟩ := binding
    have later : nextSweep started report rest books = (books, .done (.ok (.swept report))) ∨
        ∃ other turn waiting,
          TakesUp books started ((uploadId, number) :: rest) other turn waiting ∧
            nextSweep started report rest books =
              (books.beginPurge turn,
                .waiting (.sweep started other turn (.listing other) waiting report)) := by
      refine inductionHypothesis.imp_right ?_
      rintro ⟨other, turn, waiting, taken, equal⟩
      exact ⟨other, turn, waiting, ⟨taken.suffix.trans (List.suffix_cons _ _), taken.free⟩, equal⟩
    rw [nextSweep]
    split
    · exact later
    · next session found =>
      split
      · next due =>
        simp only [Bool.and_eq_true, Bool.not_eq_true'] at due
        exact Or.inr ⟨uploadId, number, rest,
          ⟨List.suffix_rfl, session, found, due.1, due.2⟩, rfl⟩
      · exact later

/-- The part in which a sweep that takes the abandoned sessions in some order begins. -/
theorem part_sweep {order : List (String × SessionId)}
    (candidates : order.Perm (books.abandoned now)) :
    Part now books .sweep none (nextSweep now {} order books).1
      (nextSweep now {} order books).2.pending? := by
  rcases @nextSweep_cases books now {} order with
    equal | ⟨uploadId, number, waiting, taken, equal⟩
  · rw [equal]
    exact .ends (by simp)
  · rw [equal]
    exact .sweepBegins candidates taken

/-! ### The parts before the first request -/

theorem part_fail (call : Call) (error : ServiceError) :
    Part now books call none (books.fail error).1 (books.fail error).2.pending? :=
  .ends (by simp)

theorem part_beginStore (uploadId : String) (index : Nat) (data : ByteArray) :
    Part now books (.store uploadId index data) none
      (books.beginStore now uploadId index data).1
      (books.beginStore now uploadId index data).2.pending? := by
  unfold beginStore
  split
  · exact part_fail _ _
  · next number session found =>
    split
    · exact part_fail _ _
    · next accepts =>
      split
      · exact part_fail _ _
      · next inRange => exact .storeBegins found accepts (Nat.lt_of_not_le inRange)

theorem part_beginMerge (uploadId : String) :
    Part now books (.merge uploadId) none (books.beginMerge now uploadId).1
      (books.beginMerge now uploadId).2.pending? := by
  unfold beginMerge
  split
  · exact part_fail _ _
  · next number session found =>
    split
    · exact .ends (by simp)
    · split
      · exact part_fail _ _
      · next accepts => exact .mergeBegins found accepts

theorem part_beginCancel (uploadId : String) (user : UInt64) :
    Part now books (.cancel uploadId user) none (books.beginCancel now uploadId user).1
      (books.beginCancel now uploadId user).2.pending? := by
  unfold beginCancel
  split
  · exact part_fail _ _
  · next number session found =>
    split
    · exact part_fail _ _
    · next owner =>
      rw [not_not] at owner
      subst owner
      split
      · exact part_fail _ _
      · exact .ends (by simp)
      · next pending =>
        split
        · exact part_fail _ _
        · next free => exact .cancelBegins found pending (Bool.not_eq_true _ ▸ free)

theorem part_beginRead (uploadId : String) :
    Part now books (.read uploadId) none (books.beginRead uploadId).1
      (books.beginRead uploadId).2.pending? := by
  unfold beginRead
  split
  · exact part_fail _ _
  · next number session found =>
    split
    · next completed =>
      split
      · exact .ends (by simp)
      · next nonempty => exact .readBegins found completed nonempty
    · exact part_fail _ _

/-- The part of a call before its first request. -/
theorem part_begin (call : Call) :
    Part now books call none (books.begin now call).1 (books.begin now call).2.pending? := by
  cases call with
  | store uploadId index data => exact part_beginStore uploadId index data
  | merge uploadId => exact part_beginMerge uploadId
  | cancel uploadId user => exact part_beginCancel uploadId user
  | read uploadId => exact part_beginRead uploadId
  | sweep => exact part_sweep (List.Perm.refl _)

/-! ### The parts after an answer -/

theorem part_finishStore (call : Call) (uploadId : String) (number index : Nat)
    (data : ByteArray) (written : Outcome Unit) :
    Part now books call (some ⟨call, .store uploadId number index data, some written⟩)
      (books.finishStore now uploadId number index written).1
      (books.finishStore now uploadId number index written).2.pending? := by
  unfold finishStore
  split
  · exact .ends (by simp [Pending.duty?])
  · split
    · exact .ends (by simp [Pending.duty?])
    · next session found =>
      split
      · next pending => exact .records found pending
      · exact .ends (by simp [Pending.duty?])

theorem continueMerge_eq (uploadId : String) (number total index : Nat) (missing : List Nat)
    (found : Outcome Bool) :
    books.continueMerge now uploadId number total index missing found =
      let lacking := if found = .ok true then missing else missing ++ [index]
      if index + 1 < total then
        (books, .waiting (.merge uploadId number total (index + 1) lacking))
      else books.finishMerge now uploadId number lacking := by
  cases found with
  | error failure => simp [continueMerge]
  | ok there => cases there <;> simp [continueMerge]

theorem part_finishMerge (call : Call) (uploadId : String) (number total index : Nat)
    (missing lacking : List Nat) (found : Outcome Bool) (last : total ≤ index + 1)
    (all : lacking = [] → missing = [] ∧ found = .ok true) :
    Part now books call
      (some ⟨call, .merge uploadId number total index missing, some found⟩)
      (books.finishMerge now uploadId number lacking).1
      (books.finishMerge now uploadId number lacking).2.pending? := by
  unfold finishMerge
  split
  · exact .ends (by simp [Pending.duty?])
  · next complete =>
    obtain ⟨rfl, rfl⟩ := all (not_not.1 complete)
    split
    · exact .ends (by simp [Pending.duty?])
    · next session here =>
      split
      · exact .ends (by simp [Pending.duty?])
      · split
        · exact .ends (by simp [Pending.duty?])
        · next accepts => exact .completes last here accepts

theorem part_continueMerge (call : Call) (uploadId : String) (number total index : Nat)
    (missing : List Nat) (found : Outcome Bool) :
    Part now books call
      (some ⟨call, .merge uploadId number total index missing, some found⟩)
      (books.continueMerge now uploadId number total index missing found).1
      (books.continueMerge now uploadId number total index missing found).2.pending? := by
  rw [continueMerge_eq]
  dsimp only
  by_cases further : index + 1 < total
  · rw [if_pos further]
    exact .mergeContinues further
  · rw [if_neg further]
    refine part_finishMerge call uploadId number total index missing _ found
      (Nat.le_of_not_lt further) fun none => ?_
    by_cases there : found = .ok true
    · rw [if_pos there] at none
      exact ⟨none, there⟩
    · rw [if_neg there] at none
      simp at none

theorem part_continueCancel (call : Call) (uploadId : String) (number : Nat) (cleanup : Cleanup)
    (answer : Outcome cleanup.request.Answer) :
    Part now books call (some ⟨call, .cancel uploadId number cleanup, some answer⟩)
      (books.continueCancel uploadId number (cleanup.resume answer)).1
      (books.continueCancel uploadId number (cleanup.resume answer)).2.pending? := by
  cases rest : cleanup.resume answer with
  | inl further => exact .cancelContinues rest
  | inr result => exact .cancelEnds rest

theorem part_continueRead (call : Call) (uploadId : String) (total index : Nat)
    (assembled : ByteArray) (chunk : Outcome ByteArray) :
    Part now books call (some ⟨call, .read uploadId total index assembled, some chunk⟩)
      (books.continueRead uploadId total index assembled chunk).1
      (books.continueRead uploadId total index assembled chunk).2.pending? := by
  unfold continueRead
  split
  · exact .ends (by simp [Pending.duty?])
  · dsimp only
    split
    · next further => exact .readContinues further
    · exact .ends (by simp [Pending.duty?])

theorem part_continueSweep (call : Call) (uploadId : String) (number : Nat)
    (queue : List (String × SessionId)) (report : SweepReport) (cleanup : Cleanup)
    (answer : Outcome cleanup.request.Answer) :
    Part now books call
      (some ⟨call, .sweep started uploadId number cleanup queue report, some answer⟩)
      (books.continueSweep started uploadId number queue report (cleanup.resume answer)).1
      (books.continueSweep started uploadId number queue report
        (cleanup.resume answer)).2.pending? := by
  cases rest : cleanup.resume answer with
  | inl further => exact .sweepContinues rest
  | inr result =>
    have turn (after : SweepReport) :
        Part now books call
          (some ⟨call, .sweep started uploadId number cleanup queue report, some answer⟩)
          (nextSweep started after queue (books.release uploadId number result)).1
          (nextSweep started after queue (books.release uploadId number result)).2.pending? := by
      rcases @nextSweep_cases (books.release uploadId number result) started after queue with
        equal | ⟨other, turn, waiting, taken, equal⟩
      · rw [equal]
        exact .sweepEnds rest
      · rw [equal]
        exact .sweepTurns rest taken
    cases result with
    | ok removed => exact turn _
    | error failure => exact turn _

/-- The part of a call from an answer to its next request. -/
theorem part_resume (call : Call) (pending : Pending) (answer : Outcome pending.request.Answer) :
    Part now books call (some ⟨call, pending, some answer⟩) (books.resume now pending answer).1
      (books.resume now pending answer).2.pending? := by
  cases pending with
  | store uploadId number index data =>
    exact part_finishStore call uploadId number index data answer
  | merge uploadId number total index missing =>
    exact part_continueMerge call uploadId number total index missing answer
  | cancel uploadId number cleanup =>
    exact part_continueCancel call uploadId number cleanup answer
  | read uploadId total index assembled =>
    exact part_continueRead call uploadId total index assembled answer
  | sweep started uploadId number cleanup queue report =>
    exact part_continueSweep call uploadId number queue report cleanup answer

/-! ### Announcements -/

/-- An announcement leaves the books as they are, or it is accepted and makes a session. The one that was
tracked under the identifier, if there was one, was not being cleaned up and not live, and it was the caller's
own or abandoned. -/
theorem announce_cases (user : UInt64) (announced : Announcement) :
    (books.announce user announced now).1 = books ∨
      books.announce user announced now =
          (books.track (books.freshSession user announced now),
            .ok (books.freshSession user announced now).receipt) ∧
        isValidId announced.uploadId ∧ announced.totalChunks.toNat ≠ 0 ∧
        ∀ number session, books.find announced.uploadId = .ok (number, session) →
          session.purging = false ∧ ¬ session.isLive now ∧
            (session.userId = user ∨ session.isAbandoned now) := by
  unfold announce
  split
  · exact Or.inl rfl
  · next accepted =>
    have valid : isValidId announced.uploadId ∧ announced.totalChunks.toNat ≠ 0 := by
      unfold announcementRefusal? at accepted
      dsimp only at accepted
      split at accepted
      · cases accepted
      · next valid =>
        split at accepted
        · cases accepted
        · next nonzero =>
          rw [Bool.not_eq_true, Bool.not_eq_false'] at valid
          exact ⟨valid, nonzero⟩
    dsimp only
    split
    · next unknown =>
      refine Or.inr ⟨rfl, valid.1, valid.2, fun number session found => ?_⟩
      rw [unknown] at found
      cases found
    · next number existing found =>
      split
      · exact Or.inl rfl
      · next free =>
        split
        · exact Or.inl rfl
        · next yields =>
          split
          · exact Or.inl rfl
          · next dead =>
            refine Or.inr ⟨rfl, valid.1, valid.2, fun other session same => ?_⟩
            rw [found] at same
            cases same
            refine ⟨Bool.not_eq_true _ ▸ free, dead, ?_⟩
            by_cases owner : existing.userId = user
            · exact Or.inl owner
            · refine Or.inr (Bool.not_eq_false _ ▸ fun alive => yields ⟨owner, ?_⟩)
              rw [alive]
              rfl

end Coordinator

/-! ### Events -/

/-- The call that an event begins. -/
def Event.call? : Event → Option Call
  | begin call => some call
  | sweep _ => some .sweep
  | _ => none

namespace System

variable {system : System}

/-- What an event can do to a system. -/
inductive Move (system : System) : Event → System → Prop
  /-- The event is none. -/
  | idles {event : Event} : Move system event system
  | ticks (now : Timestamp) : Move system (.tick now) { system with clock := now }
  | announces (user : UInt64) (announced : Announcement) :
      Move system (.announce user announced)
        { system with coordinator := (system.coordinator.announce user announced system.clock).1 }
  | begins {event : Event} {call : Call} {books : Coordinator} {waits : Option Pending}
      (opens : event.call? = some call)
      (part : Part system.clock system.coordinator call none books waits) :
      Move system event
        { system with
          coordinator := books
          begun := system.begun + 1
          flights := Function.update system.flights system.begun
            (waits.map fun pending => { call, pending }) }
  | serves {number : Nat} {fate : Fate} {call : Call} {pending : Pending}
      (waits : system.flights number = some ⟨call, pending, none⟩) :
      Move system (.serve number fate)
        { system with
          store := (fate.meet system.store pending.request).1
          flights := Function.update system.flights number
            (some ⟨call, pending, some (fate.meet system.store pending.request).2⟩) }
  | resumes {number : Nat} {flight : Flight} {books : Coordinator} {waits : Option Pending}
      (answered : system.flights number = some flight)
      (part : Part system.clock system.coordinator flight.call (some flight) books waits) :
      Move system (.resume number)
        { system with
          coordinator := books
          flights := Function.update system.flights number
            (waits.map fun pending => { call := flight.call, pending }) }

theorem settle_fst (number : Nat) (call : Call) (part : Coordinator × Progress) :
    (system.settle number call part).1 =
      { system with
        coordinator := part.1
        flights := Function.update system.flights number
          (part.2.pending?.map fun pending => { call, pending }) } := by
  obtain ⟨books, progress⟩ := part
  cases progress <;> rfl

theorem move (system : System) (event : Event) : system.Move event (system.next event) := by
  unfold next step
  cases event with
  | tick now => exact .ticks now
  | announce user announced => exact .announces user announced
  | begin call =>
    dsimp only
    rw [enter, settle_fst]
    exact .begins rfl (Coordinator.part_begin call)
  | sweep order =>
    dsimp only
    split
    · next candidates =>
      rw [enter, settle_fst]
      exact .begins rfl (Coordinator.part_sweep candidates)
    · exact .idles
  | serve number fate =>
    dsimp only
    split
    · next call pending waits => exact .serves waits
    · exact .idles
  | resume number =>
    dsimp only
    split
    · next call pending answer answered =>
      rw [settle_fst]
      exact .resumes answered (Coordinator.part_resume call pending answer)
    · exact .idles

theorem step_serve {number : Nat} {call : Call} {pending : Pending}
    (waits : system.flights number = some ⟨call, pending, none⟩) (fate : Fate) :
    system.step (.serve number fate) =
      ({ system with
          store := (fate.meet system.store pending.request).1
          flights := Function.update system.flights number
            (some ⟨call, pending, some (fate.meet system.store pending.request).2⟩) }, none) := by
  unfold step
  simp only [waits]

theorem next_serve {number : Nat} {call : Call} {pending : Pending}
    (waits : system.flights number = some ⟨call, pending, none⟩) (fate : Fate) :
    system.next (.serve number fate) =
      { system with
        store := (fate.meet system.store pending.request).1
        flights := Function.update system.flights number
          (some ⟨call, pending, some (fate.meet system.store pending.request).2⟩) } :=
  congrArg Prod.fst (step_serve waits fate)

theorem step_serve_of_answered {number : Nat} {call : Call} {pending : Pending}
    {answer : Outcome pending.request.Answer}
    (answered : system.flights number = some ⟨call, pending, some answer⟩) (fate : Fate) :
    system.step (.serve number fate) = (system, none) := by
  unfold step
  simp only [answered]

theorem step_resume_of_waiting {number : Nat} {call : Call} {pending : Pending}
    (waits : system.flights number = some ⟨call, pending, none⟩) :
    system.step (.resume number) = (system, none) := by
  unfold step
  simp only [waits]

theorem step_resume {number : Nat} {call : Call} {pending : Pending}
    {answer : Outcome pending.request.Answer}
    (answered : system.flights number = some ⟨call, pending, some answer⟩) :
    system.step (.resume number) =
      system.settle number call (system.coordinator.resume system.clock pending answer) := by
  unfold step
  simp only [answered]

theorem next_resume {number : Nat} {call : Call} {pending : Pending}
    {answer : Outcome pending.request.Answer}
    (answered : system.flights number = some ⟨call, pending, some answer⟩) :
    system.next (.resume number) =
      { system with
        coordinator := (system.coordinator.resume system.clock pending answer).1
        flights := Function.update system.flights number
          ((system.coordinator.resume system.clock pending answer).2.pending?.map
            fun pending => { call, pending }) } := by
  unfold next
  rw [step_resume answered]
  exact settle_fst ..

/-- In one round a call goes on with the answer to its request. -/
theorem step_round {number : Nat} {call : Call} {pending : Pending} {store : Blob.Memory}
    {answer : Outcome pending.request.Answer}
    (waits : system.flights number = some ⟨call, pending, none⟩)
    (met : system.store.answer pending.request = (store, answer)) :
    ∃ flights, (system.next (.serve number .answered)).step (.resume number) =
      { system with store, flights }.settle number call
        (system.coordinator.resume system.clock pending answer) := by
  have serves : system.next (.serve number .answered) = { system with
      store
      flights := Function.update system.flights number (some ⟨call, pending, some answer⟩) } := by
    rw [next_serve waits, Fate.meet, met]
  rw [serves, step_resume (Function.update_self ..)]
  exact ⟨_, rfl⟩

/-- What a call enters where it stood is all that stays of it. -/
theorem settle_update (system : System) (books : Coordinator) (number : Nat) (call : Call)
    (flight : Option Flight) (part : Coordinator × Progress) :
    ({ system with
        coordinator := books
        flights := Function.update system.flights number flight }).settle number call part =
      system.settle number call part := by
  obtain ⟨books, progress⟩ := part
  cases progress <;> simp only [settle, Function.update_idem]

/-- In an exchange a call learns what has become of its request and goes on, and nothing else happens. -/
theorem follow_exchange {number : Nat} {call : Call} {pending : Pending}
    (waits : system.flights number = some ⟨call, pending, none⟩) (fate : Fate) (now : Timestamp)
    (rest : List Event) :
    follow (system, none) (exchange number fate now ++ rest) =
      follow ({ system with store := (fate.meet system.store pending.request).1, clock := now }.settle
        number call (system.coordinator.resume now pending (fate.meet system.store pending.request).2))
        rest := by
  have goesOn : ((system.next (.serve number fate)).next (.tick now)).step (.resume number) =
      { system with store := (fate.meet system.store pending.request).1, clock := now }.settle
        number call (system.coordinator.resume now pending (fate.meet system.store pending.request).2) := by
    rw [next_serve waits]
    refine (step_resume (Function.update_self ..)).trans ?_
    exact settle_update { system with store := (fate.meet system.store pending.request).1, clock := now }
      system.coordinator number call _ _
  have silent : (system.step (.serve number fate)).2 = none := by rw [step_serve waits]
  rw [← goesOn]
  refine Prod.ext rfl ?_
  show (system.step (.serve number fate)).2.toList ++ ([] ++ (_ ++ _)) = _
  rw [silent]
  rfl

theorem settle_snd {number other : Nat} {call made : Call} {part : Coordinator × Progress}
    {outcome : Outcome Reply}
    (told : (system.settle number call part).2 = some (.returned other made outcome)) :
    number = other ∧ call = made ∧ part.2 = .done outcome := by
  obtain ⟨books, progress⟩ := part
  cases progress with
  | waiting pending => cases told
  | done result =>
    cases told
    exact ⟨rfl, rfl, rfl⟩

theorem begun_begin (system : System) (call : Call) :
    (system.next (.begin call)).begun = system.begun + 1 := by
  unfold next step
  dsimp only
  rw [enter, settle_fst]

theorem begun_le_next (system : System) (event : Event) : system.begun ≤ (system.next event).begun := by
  have moves := system.move event
  generalize system.next event = after at moves
  cases moves with
  | idles | ticks | announces | serves | resumes => exact Nat.le_refl _
  | begins opens part => exact Nat.le_succ _

theorem begun_le_run (system : System) (events : List Event) :
    system.begun ≤ (system.run events).begun := by
  induction events generalizing system with
  | nil => exact Nat.le_refl _
  | cons event rest inductionHypothesis =>
    exact Nat.le_trans (system.begun_le_next event) (inductionHypothesis (system.next event))

/-- A call returns by its first part or by one that an answer has led to. -/
theorem step_returned {event : Event} {number : Nat} {call : Call} {outcome : Outcome Reply}
    (told : (system.step event).2 = some (.returned number call outcome)) :
    (event = .begin call ∧ number = system.begun ∧
        (system.coordinator.begin system.clock call).2 = .done outcome) ∨
      (∃ order, event = .sweep order ∧ call = .sweep) ∨
      event = .resume number ∧ ∃ pending answer,
        system.flights number = some ⟨call, pending, some answer⟩ ∧
          (system.coordinator.resume system.clock pending answer).2 = .done outcome := by
  unfold step at told
  cases event with
  | tick now => cases told
  | announce user announced => cases told
  | begin made =>
    obtain ⟨rfl, rfl, ended⟩ := settle_snd told
    exact Or.inl ⟨rfl, rfl, ended⟩
  | sweep order =>
    dsimp only at told
    split at told
    · obtain ⟨-, rfl, -⟩ := settle_snd told
      exact Or.inr (Or.inl ⟨order, rfl, rfl⟩)
    · cases told
  | serve other fate =>
    dsimp only at told
    split at told <;> cases told
  | resume other =>
    dsimp only at told
    split at told
    · next made pending answer answered =>
      obtain ⟨rfl, rfl, ended⟩ := settle_snd told
      exact Or.inr (Or.inr ⟨rfl, pending, answer, answered, ended⟩)
    · cases told

/-- What each part of a call makes true of where the call stands and of the books, and each answer of the store
keeps, is true of every call in progress. -/
theorem flights_next_books {event : Event} (Fact : Nat → Flight → Prop)
    (holds : ∀ number flight, system.flights number = some flight →
      (system.next event).flights number = some flight → Fact number flight)
    (begins : ∀ {call books pending}, event.call? = some call →
      Part system.clock system.coordinator call none books (some pending) →
        (system.next event).coordinator = books → Fact system.begun { call, pending })
    (serves : ∀ {number fate call pending}, event = .serve number fate →
      system.flights number = some ⟨call, pending, none⟩ →
        Fact number ⟨call, pending, some (fate.meet system.store pending.request).2⟩)
    (resumes : ∀ {number flight books pending}, system.flights number = some flight →
      Part system.clock system.coordinator flight.call (some flight) books (some pending) →
        (system.next event).coordinator = books → Fact number { call := flight.call, pending }) :
    ∀ number flight, (system.next event).flights number = some flight → Fact number flight := by
  have moves := system.move event
  generalize system.next event = after at moves holds begins resumes
  intro number flight flies
  cases moves with
  | idles => exact holds number flight flies flies
  | ticks now => exact holds number flight flies flies
  | announces user announced => exact holds number flight flies flies
  | @begins event call books waits opens part =>
    by_cases same : number = system.begun
    · subst same
      dsimp only at flies
      rw [Function.update_self] at flies
      obtain ⟨pending, rfl, rfl⟩ := Option.map_eq_some_iff.1 flies
      exact begins opens part rfl
    · exact holds number flight ((Function.update_of_ne same _ _).symm.trans flies) flies
  | @serves other fate call pending waits =>
    by_cases same : number = other
    · subst same
      dsimp only at flies
      rw [Function.update_self] at flies
      cases flies
      exact serves rfl waits
    · exact holds number flight ((Function.update_of_ne same _ _).symm.trans flies) flies
  | @resumes other held books waits answered part =>
    by_cases same : number = other
    · subst same
      dsimp only at flies
      rw [Function.update_self] at flies
      obtain ⟨pending, rfl, rfl⟩ := Option.map_eq_some_iff.1 flies
      exact resumes answered part rfl
    · exact holds number flight ((Function.update_of_ne same _ _).symm.trans flies) flies

/-- What each part of a call makes true of where the call stands, and each answer of the store keeps, is true
of every call in progress. -/
theorem flights_next {event : Event} (Fact : Nat → Flight → Prop)
    (holds : ∀ number flight, system.flights number = some flight →
      (system.next event).flights number = some flight → Fact number flight)
    (begins : ∀ {call books pending}, event.call? = some call →
      Part system.clock system.coordinator call none books (some pending) →
        Fact system.begun { call, pending })
    (serves : ∀ {number fate call pending}, event = .serve number fate →
      system.flights number = some ⟨call, pending, none⟩ →
        Fact number ⟨call, pending, some (fate.meet system.store pending.request).2⟩)
    (resumes : ∀ {number flight books pending}, system.flights number = some flight →
      Part system.clock system.coordinator flight.call (some flight) books (some pending) →
        Fact number { call := flight.call, pending }) :
    ∀ number flight, (system.next event).flights number = some flight → Fact number flight :=
  flights_next_books Fact holds (fun opens part _ => begins opens part) serves
    fun flies part _ => resumes flies part

end System

/-! ### Calls and where they stand -/

/-- Can the call stand there? -/
def Pending.BelongsTo : Pending → Call → Prop
  | .store uploadId _ index data, call => call = .store uploadId index data
  | .merge uploadId .., call => call = .merge uploadId
  | .cancel uploadId .., call => ∃ user, call = .cancel uploadId user
  | .read uploadId .., call => call = .read uploadId
  | .sweep .., call => call = .sweep

/-- A part of a call that was where it can be leaves it where it can be. -/
theorem Part.belongsTo {now : Timestamp} {books after : Coordinator} {call : Call}
    {flight : Option Flight} {pending : Pending}
    (part : Part now books call flight after (some pending))
    (belonged : ∀ held ∈ flight, held.pending.BelongsTo call) : pending.BelongsTo call := by
  cases part with
  | storeBegins found accepts inRange => rfl
  | mergeBegins found accepts => rfl
  | mergeContinues further => exact belonged _ rfl
  | cancelBegins found pending free => exact ⟨_, rfl⟩
  | cancelContinues further => exact belonged _ rfl
  | readBegins found completed nonempty => rfl
  | readContinues further => exact belonged _ rfl
  | sweepBegins candidates taken => rfl
  | sweepContinues further => exact belonged _ rfl
  | sweepTurns ended taken => exact belonged _ rfl

/-- Every call in progress stands where it can, and none has a number that is still to come. -/
structure System.Coherent (system : System) : Prop where
  stands : ∀ number flight, system.flights number = some flight →
    flight.pending.BelongsTo flight.call
  fresh : ∀ number, system.begun ≤ number → system.flights number = none

namespace System.Coherent

variable {system : System}

theorem initial (config : UploadConfig) (store : Blob.Memory) (clock : Timestamp) :
    (System.initial config store clock).Coherent where
  stands _ _ flies := by cases flies
  fresh _ _ := rfl

theorem lt_begun (coherent : system.Coherent) {number : Nat} {flight : Flight}
    (flies : system.flights number = some flight) : number < system.begun := by
  by_contra beyond
  rw [coherent.fresh number (Nat.le_of_not_lt beyond)] at flies
  cases flies

theorem next (coherent : system.Coherent) (event : Event) : (system.next event).Coherent where
  stands := System.flights_next (fun _ flight => flight.pending.BelongsTo flight.call)
    (fun number flight flies _ => coherent.stands number flight flies)
    (fun _ part => part.belongsTo (by simp))
    (fun _ waits => (coherent.stands _ _ waits : Pending.BelongsTo _ _))
    (fun flies part => part.belongsTo (by simpa using coherent.stands _ _ flies))
  fresh number beyond := by
    have moves := system.move event
    generalize system.next event = after at moves beyond
    cases moves with
    | idles | ticks | announces => exact coherent.fresh number beyond
    | begins opens part =>
      exact (Function.update_of_ne (Nat.ne_of_gt beyond) _ _).trans
        (coherent.fresh number (Nat.le_of_succ_le beyond))
    | serves waits =>
      have older := Nat.lt_of_lt_of_le (coherent.lt_begun waits) beyond
      exact (Function.update_of_ne (Nat.ne_of_gt older) _ _).trans (coherent.fresh number beyond)
    | resumes answered part =>
      have older := Nat.lt_of_lt_of_le (coherent.lt_begun answered) beyond
      exact (Function.update_of_ne (Nat.ne_of_gt older) _ _).trans (coherent.fresh number beyond)

theorem run (coherent : system.Coherent) (events : List Event) : (system.run events).Coherent := by
  induction events generalizing system with
  | nil => exact coherent
  | cons event rest inductionHypothesis => exact inductionHypothesis (coherent.next event)

theorem of_reachable {law : System → Event → Prop} (reachable : system.Reachable law) :
    system.Coherent :=
  reachable.holds initial fun coherent _ => coherent.next _

end System.Coherent

end Community.Upload
