/-
This file follows a session from the moment it is made, whatever the calls do between their requests and
whatever the clock shows. A pending session is completed or cancelled, and after that its status stays and so
do the chunks that it records; its owner and its number of chunks never change. It records indices in its
range only, all of them once it is completed, so its progress is a share between 0 and 100 percent. A
completion that succeeds leaves its session completed and a cancellation leaves it cancelled. As neither
becomes the other, they do not both succeed on one session.
-/

import Mathlib.Data.List.Perm.Subperm
import Community.Proofs.Float.Quotient
import Community.Proofs.Upload.Orderly

namespace Community.Upload

/-! ### One session -/

/-- What is true of a session at every moment. -/
structure Session.Sound (session : Session) : Prop where
  within : ∀ index ∈ session.uploaded, index < session.totalChunks
  whole : session.status = .completed → session.uploaded = .below session.totalChunks
  bounded : session.totalChunks < UInt32.size

/-- What can become of a session: only a pending one is changed in its status and in what it records. -/
structure Session.Advances (before after : Session) : Prop where
  userId : after.userId = before.userId
  totalChunks : after.totalChunks = before.totalChunks
  status : before.status ≠ .pending → after.status = before.status
  records : ∀ index ∈ before.uploaded, index ∈ after.uploaded
  frozen : before.status ≠ .pending → after.uploaded = before.uploaded

/-- What becomes of a sound session: it advances and is sound again. -/
def Session.Leads (before after : Session) : Prop :=
  before.Sound → before.Advances after ∧ after.Sound

namespace Session

variable {session before middle after : Session} {now : Timestamp} {index : Nat}

theorem Advances.refl (session : Session) : session.Advances session :=
  ⟨rfl, rfl, fun _ => rfl, fun _ => id, fun _ => rfl⟩

theorem Advances.trans (advances : before.Advances middle) (further : middle.Advances after) :
    before.Advances after where
  userId := further.userId.trans advances.userId
  totalChunks := further.totalChunks.trans advances.totalChunks
  status final := by
    have same := advances.status final
    rw [further.status (same ▸ final), same]
  records index member := further.records index (advances.records index member)
  frozen final := by
    rw [further.frozen (advances.status final ▸ final), advances.frozen final]

instance : IsPreorder Session Leads where
  refl session sound := ⟨.refl session, sound⟩
  trans _ _ _ leads further sound := by
    obtain ⟨advances, soundMiddle⟩ := leads sound
    obtain ⟨advancesFurther, soundAfter⟩ := further soundMiddle
    exact ⟨advances.trans advancesFurther, soundAfter⟩

theorem leads_mark (session : Session) (purging : Bool) : session.Leads { session with purging } :=
  fun sound => ⟨⟨rfl, rfl, fun _ => rfl, fun _ => id, fun _ => rfl⟩, sound.within, sound.whole, sound.bounded⟩

theorem leads_record (pending : session.status = .pending) (inRange : index < session.totalChunks) :
    session.Leads (session.record index now) := by
  refine fun sound => ⟨⟨rfl, rfl, fun _ => rfl, fun other member => ?_, fun final => absurd pending final⟩,
    fun other member => ?_, fun completed => ?_, sound.bounded⟩
  · exact IndexSet.mem_insert.2 (Or.inr member)
  · rcases IndexSet.mem_insert.1 member with rfl | recorded
    · exact inRange
    · exact sound.within other recorded
  · exact absurd (pending.symm.trans completed) nofun

theorem leads_complete (pending : session.status = .pending) :
    session.Leads (session.complete now) := by
  refine fun sound => ⟨⟨rfl, rfl, fun final => absurd pending final, fun other member => ?_,
    fun final => absurd pending final⟩, fun other member => ?_, fun _ => rfl, sound.bounded⟩
  · exact IndexSet.mem_below.2 (sound.within other member)
  · exact IndexSet.mem_below.1 member

theorem leads_cancel (pending : session.status = .pending) : session.Leads (session.cancel now) :=
  fun sound => ⟨⟨rfl, rfl, fun final => absurd pending final, fun _ => id, fun _ => rfl⟩, sound.within,
    nofun, sound.bounded⟩

end Session

/-! ### Progress -/

/-- A set of indices below a bound has no more of them than the bound. -/
theorem IndexSet.size_le {indices : IndexSet} {bound : Nat} (within : ∀ index ∈ indices, index < bound) :
    indices.size ≤ bound := by
  have distinct : indices.toList.Nodup := indices.ascending.imp fun less => Nat.ne_of_lt less
  have included : indices.toList ⊆ List.range bound := fun index member =>
    List.mem_range.2 (within index member)
  have shorter := (distinct.subperm included).length_le
  rwa [List.length_range] at shorter

/-- The progress of a session is a share in percent. -/
theorem Session.Sound.progress {session : Session} (sound : session.Sound) :
    0 ≤ session.progress ∧ session.progress ≤ 100 := by
  have recorded := IndexSet.size_le sound.within
  have bounded : session.totalChunks < 2 ^ 32 := sound.bounded
  unfold Session.progress
  split
  · decide +kernel
  · next nonzero => exact Binary64.percent_mem (Nat.pos_of_ne_zero nonzero) recorded (by omega)

/-! ### Every event leads the sessions on -/

/-- What a call in progress relies on: the index that it records is in the range of its session, and the session
that it cancels is cancelled. -/
def Pending.Relies (books : Coordinator) : Pending → Prop
  | .store _ place index _ => ∃ session ∈ books.session? place, index < session.totalChunks
  | .cancel _ place _ => ∃ session ∈ books.session? place, session.status = .cancelled
  | _ => True

/-- All sessions are sound, and every call in progress can rely on its own. -/
structure System.Sound (system : System) : Prop where
  sessions : ∀ place session, system.coordinator.session? place = some session → session.Sound
  relies : ∀ number flight, system.flights number = some flight →
    flight.pending.Relies system.coordinator

section Parts

variable {now : Timestamp} {books after : Coordinator} {call : Call} {flight : Option Flight}
  {waits : Option Pending} {pending : Pending}

/-- No part of a call makes a session. -/
theorem Part.size_sessions (part : Part now books call flight after waits) :
    after.sessions.size = books.sessions.size := by
  have modified (books : Coordinator) (number : SessionId) (change : Session → Session) :
      (books.modify number change).sessions.size = books.sessions.size := Array.size_modify
  have released (uploadId : String) (number : SessionId) (result : Outcome Nat) :
      (books.release uploadId number result).sessions.size = books.sessions.size := by
    cases result with
    | error failure => exact modified books number _
    | ok removed =>
      unfold Coordinator.release Coordinator.untrack
      dsimp only
      split <;> rfl
  cases part with
  | ends | storeBegins | mergeBegins | mergeContinues => rfl
  | cancelContinues | readBegins | readContinues | sweepContinues => rfl
  | records | completes | cancelBegins | cancelEnds | sweepBegins => exact modified ..
  | sweepTurns ended taken => exact (modified ..).trans (released ..)
  | sweepEnds ended => exact released ..

theorem Pending.Relies.carries (relies : pending.Relies books)
    (sound : ∀ place session, books.session? place = some session → session.Sound)
    (carries : books.Carries Session.Leads after) : pending.Relies after := by
  cases pending with
  | merge | read | sweep => trivial
  | store uploadId place index data =>
    obtain ⟨session, found, inRange⟩ := relies
    obtain ⟨later, foundLater, leads⟩ := carries place session found
    exact ⟨later, foundLater, (leads (sound place session found)).1.totalChunks ▸ inRange⟩
  | cancel uploadId place cleanup =>
    obtain ⟨session, found, cancelled⟩ := relies
    obtain ⟨later, foundLater, leads⟩ := carries place session found
    have final : session.status ≠ .pending := by rw [cancelled]; nofun
    exact ⟨later, foundLater, ((leads (sound place session found)).1.status final).trans cancelled⟩

/-- What a call relies on after one of its parts. -/
theorem Part.relies (part : Part now books call flight after (some pending))
    (relied : ∀ held ∈ flight, held.pending.Relies books) : pending.Relies after := by
  cases part with
  | mergeBegins | mergeContinues | readBegins | readContinues => trivial
  | sweepBegins | sweepContinues | sweepTurns => trivial
  | storeBegins found accepts inRange => exact ⟨_, (Coordinator.find_eq_ok.1 found).2, inRange⟩
  | cancelBegins found pending free =>
    exact ⟨_, Coordinator.session?_modify_self (Coordinator.find_eq_ok.1 found).2, rfl⟩
  | cancelContinues further => exact relied _ rfl

/-- Whatever part of a call comes next leads the sessions on. -/
theorem Part.carries_leads (part : Part now books call flight after waits)
    (relied : ∀ held ∈ flight, held.pending.Relies books) : books.Carries Session.Leads after := by
  refine part.carries Session.leads_mark ?_ ?_ fun session pending => Session.leads_cancel pending
  · intro uploadId place index data session flies found pending
    obtain ⟨same, foundSame, inRange⟩ := relied _ flies
    cases found.symm.trans foundSame
    exact Session.leads_record pending inRange
  · intro uploadId place total index session flies last found accepts
    exact Session.leads_complete (Session.isLive_iff.1 (Session.refusal?_eq_none.1 accepts).2).1

end Parts

namespace System

variable {system : System}

/-- A session that is there after an event was there before, or has just been announced. -/
theorem session?_next {event : Event} {place : SessionId} {session : Session}
    (found : (system.next event).coordinator.session? place = some session) :
    (∃ before, system.coordinator.session? place = some before) ∨
      ∃ user announced, event = .announce user announced ∧ announced.totalChunks.toNat ≠ 0 ∧
        session = system.coordinator.freshSession user announced system.clock := by
  by_cases older : place < system.coordinator.sessions.size
  · exact Or.inl ⟨_, Array.getElem?_eq_getElem older⟩
  · have moves := system.move event
    generalize system.next event = after at moves found
    cases moves with
    | idles | ticks | serves => exact absurd (Coordinator.lt_size_of_session? found) older
    | begins opens part =>
      exact absurd (part.size_sessions ▸ Coordinator.lt_size_of_session? found) older
    | resumes answered part =>
      exact absurd (part.size_sessions ▸ Coordinator.lt_size_of_session? found) older
    | announces user announced =>
      dsimp only at found
      rcases system.coordinator.announce_cases user announced with same | ⟨equal, -, nonzero, -⟩
      · rw [same] at found
        exact absurd (Coordinator.lt_size_of_session? found) older
      · rw [equal, Coordinator.session?_track] at found
        split at found
        · exact Or.inr ⟨user, announced, rfl, nonzero, (Option.some.inj found).symm⟩
        · exact absurd (Coordinator.lt_size_of_session? found) older

namespace Sound

theorem initial (config : UploadConfig) (store : Blob.Memory) (clock : Timestamp) :
    (System.initial config store clock).Sound where
  sessions _ _ found := by cases found
  relies _ _ flies := by cases flies

theorem carries_next (sound : system.Sound) (event : Event) :
    system.coordinator.Carries Session.Leads (system.next event).coordinator :=
  System.carries_next fun flies part => part.carries_leads fun held member => by
    obtain ⟨number, found⟩ := flies held member
    exact sound.relies number held found

theorem next (sound : system.Sound) (event : Event) : (system.next event).Sound where
  sessions place session found := by
    rcases session?_next found with ⟨before, was⟩ | ⟨user, announced, -, -, rfl⟩
    · obtain ⟨same, foundSame, leads⟩ := sound.carries_next event place before was
      cases found.symm.trans foundSame
      exact (leads (sound.sessions place before was)).2
    · exact ⟨fun _ member => (List.not_mem_nil member).elim, nofun, announced.totalChunks.toNat_lt⟩
  relies := flights_next_books
    (fun _ flight => flight.pending.Relies (system.next event).coordinator)
    (fun number flight flies _ =>
      (sound.relies number flight flies).carries sound.sessions (sound.carries_next event))
    (fun _ part becomes => becomes ▸ part.relies fun _ none => by cases none)
    (fun _ waits =>
      (sound.relies _ ⟨_, _, none⟩ waits).carries sound.sessions (sound.carries_next event))
    (fun flies part becomes => becomes ▸ part.relies fun _ same => by
      cases same
      exact sound.relies _ _ flies)

theorem run (sound : system.Sound) (events : List Event) : (system.run events).Sound :=
  Obeys.keeps (fun sound _ => sound.next _) sound (obeys_lawless system events)

/-- Whatever happens leads the sessions on. -/
theorem carries_run (sound : system.Sound) (events : List Event) :
    system.coordinator.Carries Session.Leads (system.run events).coordinator := by
  induction events generalizing system with
  | nil => exact Coordinator.Carries.refl _
  | cons event rest inductionHypothesis =>
    exact (sound.carries_next event).trans (inductionHypothesis (sound.next event))

end Sound

end System

/-! ### Calls that settle an upload -/

/-- The identifier of a call that settles an upload, and the status in which it leaves the session if it
succeeds. -/
def Call.settles? : Call → Option (String × Status)
  | .merge uploadId => some (uploadId, .completed)
  | .cancel uploadId _ => some (uploadId, .cancelled)
  | _ => none

/-- Is there a session with a number that has a certain status? -/
def Coordinator.Stands (books : Coordinator) (place : SessionId) (status : Status) : Prop :=
  ∃ session, books.session? place = some session ∧ session.status = status

section Settling

variable {now : Timestamp} {books after : Coordinator} {call : Call} {uploadId : String}
  {status : Status} {place : SessionId} {pending : Pending} {reply : Reply}

theorem Call.settles?_ne_pending (settles : call.settles? = some (uploadId, status)) :
    status ≠ .pending := by
  cases call <;> cases settles <;> nofun

/-- A call that settles an upload holds on to the session to which the identifier leads when it begins. -/
theorem Part.handle?_begins (part : Part now books call none after (some pending))
    (settles : call.settles? = some (uploadId, status))
    (tracked : books.tracked.get? uploadId = some place) : pending.handle? = some (uploadId, place) := by
  cases part with
  | storeBegins | readBegins | sweepBegins => cases settles
  | mergeBegins found accepts =>
    cases settles
    cases tracked.symm.trans (Coordinator.find_eq_ok.1 found).1
    rfl
  | cancelBegins found pending free =>
    cases settles
    cases tracked.symm.trans (Coordinator.find_eq_ok.1 found).1
    rfl

theorem Part.handle?_continues {flight : Flight}
    (part : Part now books call (some flight) after (some pending))
    (belongs : flight.pending.BelongsTo call) (settles : call.settles? = some (uploadId, status)) :
    pending.handle? = flight.pending.handle? := by
  cases part with
  | mergeContinues | cancelContinues | readContinues | sweepContinues => rfl
  | sweepTurns ended taken =>
    cases belongs
    cases settles

/-- A call that settles an upload and succeeds at once finds the session settled. -/
theorem Coordinator.stands_begin (settles : call.settles? = some (uploadId, status))
    (tracked : books.tracked.get? uploadId = some place)
    (ended : (books.begin now call).2 = .done (.ok reply)) :
    (books.begin now call).1.Stands place status := by
  cases call with
  | store | read | sweep => cases settles
  | merge other =>
    cases settles
    unfold begin beginMerge at ended ⊢
    dsimp only at ended ⊢
    split at ended
    · cases ended
    · next number session found =>
      cases tracked.symm.trans (find_eq_ok.1 found).1
      split at ended
      · next completed =>
        rw [if_pos completed]
        exact ⟨session, (find_eq_ok.1 found).2, completed⟩
      · split at ended <;> cases ended
  | cancel other user =>
    cases settles
    unfold begin beginCancel at ended ⊢
    dsimp only at ended ⊢
    split at ended
    · cases ended
    · next number session found =>
      cases tracked.symm.trans (find_eq_ok.1 found).1
      split at ended
      · cases ended
      · next owner =>
        rw [if_neg owner]
        split at ended
        · cases ended
        · next cancelled => exact ⟨session, (find_eq_ok.1 found).2, cancelled⟩
        · split at ended <;> cases ended

theorem Coordinator.stands_finishMerge {missing : List Nat}
    (ended : (books.finishMerge now uploadId place missing).2 = .done (.ok reply)) :
    (books.finishMerge now uploadId place missing).1.Stands place .completed := by
  unfold finishMerge at ended ⊢
  split at ended
  · cases ended
  · next complete =>
    rw [if_neg complete]
    split at ended
    · cases ended
    · next session found =>
      split at ended
      · next completed =>
        rw [if_pos completed]
        exact ⟨session, found, completed⟩
      · next unfinished =>
        rw [if_neg unfinished]
        split at ended
        · cases ended
        · exact ⟨session.complete now, session?_modify_self found, rfl⟩

theorem Coordinator.stands_continueMerge {total index : Nat} {missing : List Nat} (found : Outcome Bool)
    (ended : (books.continueMerge now uploadId place total index missing found).2 =
      .done (.ok reply)) :
    (books.continueMerge now uploadId place total index missing found).1.Stands place .completed := by
  rw [continueMerge_eq] at ended ⊢
  dsimp only at ended ⊢
  split at ended
  · cases ended
  · next last =>
    rw [if_neg last]
    exact stands_finishMerge ended

/-- A call that settles an upload and succeeds in the end leaves the session settled. -/
theorem Coordinator.stands_resume {answer : Outcome pending.request.Answer}
    (relies : pending.Relies books) (belongs : pending.BelongsTo call)
    (settles : call.settles? = some (uploadId, status))
    (holds : pending.handle? = some (uploadId, place))
    (ended : (books.resume now pending answer).2 = .done (.ok reply)) :
    (books.resume now pending answer).1.Stands place status := by
  cases pending with
  | store | read | sweep =>
    cases belongs
    cases settles
  | merge other number total index missing =>
    cases belongs
    cases settles
    cases holds
    exact stands_continueMerge answer ended
  | cancel other number cleanup =>
    obtain ⟨user, rfl⟩ := belongs
    cases settles
    cases holds
    obtain ⟨session, found, cancelled⟩ := relies
    unfold resume at ended ⊢
    dsimp only at ended ⊢
    cases rest : cleanup.resume answer with
    | inl further =>
      rw [rest] at ended
      cases ended
    | inr result => exact ⟨_, session?_modify_self found, cancelled⟩

end Settling

namespace System

variable {system : System} {events : List Event} {number : Nat} {call : Call} {uploadId : String}
  {status : Status} {place : SessionId} {reply : Reply}

/-- In the course of a run a call is begun under a number when the identifier leads to a session. -/
def BeginsOn (start : System) (events : List Event) (number : Nat) (call : Call) (uploadId : String)
    (place : SessionId) : Prop :=
  ∃ earlier later, events = earlier ++ .begin call :: later ∧ (start.run earlier).begun = number ∧
    (start.run earlier).place? uploadId = some place

/-- A call has begun that settles a session. -/
structure Settling (system : System) (number : Nat) (call : Call) (uploadId : String)
    (place : SessionId) : Prop where
  begun : number < system.begun
  holds : ∀ flight, system.flights number = some flight →
    flight.call = call ∧ flight.pending.handle? = some (uploadId, place)

theorem Settling.next (settling : system.Settling number call uploadId place)
    (coherent : system.Coherent) (settles : call.settles? = some (uploadId, status)) (event : Event) :
    (system.next event).Settling number call uploadId place where
  begun := Nat.lt_of_lt_of_le settling.begun (system.begun_le_next event)
  holds flight flies := flights_next
    (fun other flight => other = number →
      flight.call = call ∧ flight.pending.handle? = some (uploadId, place))
    (fun other flight flies _ same => settling.holds flight (same ▸ flies))
    (fun _ _ same => absurd settling.begun (Nat.not_lt_of_le (Nat.le_of_eq same)))
    (fun _ waits same => settling.holds ⟨_, _, none⟩ (same ▸ waits))
    (fun flies part same => by
      obtain ⟨rfl, holds⟩ := settling.holds _ (same ▸ flies)
      exact ⟨rfl, (part.handle?_continues (coherent.stands _ _ flies) settles).trans holds⟩)
    number flight flies rfl

theorem settling_begin (coherent : system.Coherent)
    (settles : call.settles? = some (uploadId, status))
    (tracked : system.place? uploadId = some place) :
    (system.next (.begin call)).Settling system.begun call uploadId place where
  begun := by rw [begun_begin]; exact Nat.lt_succ_self _
  holds flight flies := flights_next
    (fun other flight => other = system.begun →
      flight.call = call ∧ flight.pending.handle? = some (uploadId, place))
    (fun other flight flies _ same => absurd (coherent.lt_begun flies) (by omega))
    (fun opens part _ => by
      cases opens
      exact ⟨rfl, part.handle?_begins settles tracked⟩)
    (fun serves => by cases serves)
    (fun flies _ same => absurd (coherent.lt_begun flies) (by omega))
    system.begun flight flies rfl

/-- A session that is settled stays so. -/
theorem Sound.stands_run (sound : system.Sound) (final : status ≠ .pending)
    (stands : system.coordinator.Stands place status) (events : List Event) :
    (system.run events).coordinator.Stands place status := by
  obtain ⟨session, found, rfl⟩ := stands
  obtain ⟨later, foundLater, leads⟩ := sound.carries_run events place session found
  exact ⟨later, foundLater, (leads (sound.sessions place session found)).1.status final⟩

/-- A call that settles a session and returns Ok later leaves it settled. -/
theorem Settling.stands (settling : system.Settling number call uploadId place)
    (sound : system.Sound) (coherent : system.Coherent)
    (settles : call.settles? = some (uploadId, status))
    (told : .returned number call (.ok reply) ∈ system.notices events) :
    (system.run events).coordinator.Stands place status := by
  induction events generalizing system with
  | nil => cases told
  | cons event rest inductionHypothesis =>
    rcases List.mem_append.1 told with now | later
    · refine (sound.next event).stands_run (Call.settles?_ne_pending settles) ?_ rest
      rcases step_returned (Option.mem_toList.1 now) with
        ⟨-, same, -⟩ | ⟨order, -, rfl⟩ | ⟨rfl, pending, answer, flies, ended⟩
      · exact absurd settling.begun (Nat.not_lt_of_le (Nat.le_of_eq same.symm))
      · cases settles
      · rw [next_resume flies]
        exact Coordinator.stands_resume (sound.relies number _ flies) (coherent.stands number _ flies)
          settles (settling.holds _ flies).2 ended
    · exact inductionHypothesis (settling.next coherent settles event) (sound.next event)
        (coherent.next event) later

/-- No call returns that has not begun. -/
theorem Coherent.lt_begun_of_returned (coherent : system.Coherent) {outcome : Outcome Reply}
    (settles : call.settles? = some (uploadId, status))
    (told : .returned number call outcome ∈ system.notices events) :
    number < (system.run events).begun := by
  induction events generalizing system with
  | nil => cases told
  | cons event rest inductionHypothesis =>
    rcases List.mem_append.1 told with now | later
    · refine Nat.lt_of_lt_of_le ?_ (begun_le_run (system.next event) rest)
      rcases step_returned (Option.mem_toList.1 now) with
        ⟨rfl, rfl, -⟩ | ⟨order, -, rfl⟩ | ⟨rfl, pending, answer, flies, ended⟩
      · rw [begun_begin]
        exact Nat.lt_succ_self _
      · cases settles
      · exact Nat.lt_of_lt_of_le (coherent.lt_begun flies) (system.begun_le_next _)
    · exact inductionHypothesis (coherent.next event) later

/-- A call that settles an upload and returns Ok leaves the session settled on which it began. -/
theorem BeginsOn.stands (begins : system.BeginsOn events number call uploadId place)
    (sound : system.Sound) (coherent : system.Coherent)
    (settles : call.settles? = some (uploadId, status))
    (told : .returned number call (.ok reply) ∈ system.notices events) :
    (system.run events).coordinator.Stands place status := by
  obtain ⟨earlier, later, rfl, rfl, tracked⟩ := begins
  have soundThen := sound.run earlier
  have coherentThen := coherent.run earlier
  rw [run_append]
  rw [notices_append] at told
  rcases List.mem_append.1 told with before | told
  · exact absurd (coherent.lt_begun_of_returned settles before) (Nat.lt_irrefl _)
  rcases List.mem_append.1 told with now | after
  · refine (soundThen.next _).stands_run (Call.settles?_ne_pending settles) ?_ later
    rcases step_returned (Option.mem_toList.1 now) with
      ⟨-, -, ended⟩ | ⟨order, -, rfl⟩ | ⟨same, -⟩
    · have opens : ((system.run earlier).next (.begin call)).coordinator =
          ((system.run earlier).coordinator.begin (system.run earlier).clock call).1 := by
        unfold System.next step
        dsimp only
        rw [enter, settle_fst]
      rw [opens]
      exact Coordinator.stands_begin settles tracked ended
    · cases settles
    · cases same
  · exact (settling_begin coherentThen settles tracked).stands (soundThen.next _)
      (coherentThen.next _) settles after

/-- In every run a session advances as a session can, records indices of its range only and all of them once it
is completed, and shows a progress in percent. No completion and cancellation of one session both return Ok. -/
theorem session_lifecycle (config : UploadConfig) (store : Blob.Memory) (clock : Timestamp)
    (events further : List Event) :
    let start := initial config store clock
    let system := start.run events
    (∀ place session, system.coordinator.session? place = some session →
      (∃ later, (system.run further).coordinator.session? place = some later ∧
        session.Advances later) ∧
      (∀ index ∈ session.uploaded, index < session.totalChunks) ∧
      (session.status = .completed → session.uploaded = .below session.totalChunks) ∧
      0 ≤ session.progress ∧ session.progress ≤ 100) ∧
    ∀ merging cancelling uploadId other user place first second,
      start.BeginsOn events merging (.merge uploadId) uploadId place →
      start.BeginsOn events cancelling (.cancel other user) other place →
      .returned merging (.merge uploadId) (.ok first) ∈ start.notices events →
      .returned cancelling (.cancel other user) (.ok second) ∉ start.notices events := by
  intro start system
  have sound : start.Sound := .initial config store clock
  have coherent : start.Coherent := .initial config store clock
  have soundNow := sound.run events
  refine ⟨fun place session found => ?_, ?_⟩
  · have soundSession := soundNow.sessions place session found
    obtain ⟨later, foundLater, leads⟩ := soundNow.carries_run further place session found
    exact ⟨⟨later, foundLater, (leads soundSession).1⟩, soundSession.within, soundSession.whole,
      soundSession.progress⟩
  · intro merging cancelling uploadId other user place first second mergeBegins cancelBegins
      mergeReturns cancelReturns
    obtain ⟨session, found, completed⟩ := mergeBegins.stands sound coherent rfl mergeReturns
    obtain ⟨same, foundSame, standsCancelled⟩ := cancelBegins.stands sound coherent rfl cancelReturns
    cases found.symm.trans foundSame
    cases completed.symm.trans standsCancelled

/-- An upload of one chunk is completed, and its owner cancels too late. -/
theorem session_lifecycle_completed :
    let config : UploadConfig := { publicBaseUrl := "https://host" }
    let start := initial config {} ⟨0⟩
    let earlier : List Event :=
      [.announce 1 ⟨"u", "f", 1, 1⟩, .begin (.store "u" 0 "a".toUTF8), .serve 0 .answered, .resume 0]
    let merging : List Event := [.serve 1 .answered, .resume 1]
    let events := earlier ++ .begin (.merge "u") :: merging ++ [.begin (.cancel "u" 1)]
    let reference : Reference := ⟨"chunks/u", "https://host/chunks/u", 1⟩
    (∃ session, (start.run events).coordinator.session? 0 = some session ∧
      session.status = .completed ∧ session.uploaded = .below 1 ∧ session.progress ≤ 100) ∧
    .returned 1 (.merge "u") (.ok (.merged reference)) ∈ start.notices events ∧
    .returned 2 (.cancel "u" 1) (.ok .cancelled) ∉ start.notices events := by
  intro config start earlier merging events reference
  obtain ⟨sessions, exclusive⟩ := session_lifecycle config {} ⟨0⟩ events []
  have completed : ∃ session ∈ (start.run events).coordinator.session? 0,
      session.status = .completed ∧ session.totalChunks = 1 := by decide +kernel
  obtain ⟨session, found, status, single⟩ := completed
  obtain ⟨-, -, whole, -, atMost⟩ := sessions 0 session found
  have merged : .returned 1 (.merge "u") (.ok (.merged reference)) ∈ start.notices events := by
    decide +kernel
  have mergeBegins : start.BeginsOn events 1 (.merge "u") "u" 0 :=
    ⟨earlier, merging ++ [.begin (.cancel "u" 1)], rfl, by decide +kernel, by decide +kernel⟩
  have cancelBegins : start.BeginsOn events 2 (.cancel "u" 1) "u" 0 :=
    ⟨earlier ++ .begin (.merge "u") :: merging, [], rfl, by decide +kernel, by decide +kernel⟩
  exact ⟨⟨session, found, status, single ▸ whole status, atMost⟩, merged,
    exclusive 1 2 "u" "u" 1 0 _ _ mergeBegins cancelBegins merged⟩

end System

end Community.Upload
