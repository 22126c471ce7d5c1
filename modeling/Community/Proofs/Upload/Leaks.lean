/-
This file proves when no chunk is leaked. A sweep forgets an identifier once it has removed all blobs
that it has listed for it, and a chunk that is on its way keeps nobody from doing so. So a chunk can
arrive when the blobs have been listed already, or when the identifier has been forgotten. The call
that has sent it looks only at its session then, and no later sweep knows where to look. As long as no
chunk arrives like that, all blobs lie under identifiers that lead to sessions, at every moment and
whatever the clock shows. And each chunk that does arrive like that is leaked, at once or when the
sweep is done.
-/

import Community.Proofs.Upload.Custody
import Community.Proofs.Upload.Permanence
import Community.Proofs.Upload.SweepSafety

namespace Community.Upload

open Community.Blob

/-- The paths that a removal has still to remove, if it knows them and nothing has failed yet. -/
def Cleanup.left? : (cleanup : Cleanup) → Option (Outcome cleanup.request.Answer) → Option (List String)
  | listing _, some (.ok paths) => some paths
  | listing _, _ => none
  | removing path rest _ none, none => some (path :: rest)
  | removing _ rest _ none, some (.ok _) => some rest
  | removing .., _ => none

/-- The paths that a sweep in progress has still to remove before it forgets the identifier on which
it works. -/
def Flight.left? : Flight → Option (List String)
  | ⟨_, .sweep _ _ _ cleanup _ _, answer⟩ => cleanup.left? answer
  | _ => none

/-- If the call is a sweep that will forget the identifier, the chunk of an index is among what it
removes before. -/
def Flight.Expects (uploadId : String) (place : SessionId) (index : Nat) (flight : Flight) : Prop :=
  flight.pending.handle? = some (uploadId, place) →
    ∀ left ∈ flight.left?, chunkPath uploadId index ∈ left

instance (uploadId : String) (place : SessionId) (index : Nat) (flight : Flight) :
    Decidable (flight.Expects uploadId place index) :=
  inferInstanceAs (Decidable (_ → ∀ left ∈ _, _))

/-- The chunk that a call waits to see written. -/
def Flight.arriving? : Flight → Option (String × Nat)
  | ⟨_, .store uploadId _ index _, none⟩ => some (uploadId, index)
  | _ => none

namespace System

/-- The identifier leads to a session, and no sweep will forget it without having removed the chunk.
-/
def Awaits (system : System) (uploadId : String) (index : Nat) : Prop :=
  ∃ place ∈ system.place? uploadId, ∀ number < system.begun, ∀ flight ∈ system.flights number,
    flight.Expects uploadId place index

instance (system : System) (uploadId : String) (index : Nat) :
    Decidable (system.Awaits uploadId index) :=
  inferInstanceAs (Decidable (∃ place ∈ _, ∀ number < _, ∀ flight ∈ _, _))

/-- A chunk that reaches the store is awaited there. -/
def Timely (system : System) : Event → Prop
  | .serve number fate =>
    fate.reaches → ∀ chunk ∈ (system.flights number).bind Flight.arriving?,
      system.Awaits chunk.1 chunk.2
  | _ => True

instance (system : System) : (event : Event) → Decidable (system.Timely event)
  | .serve _ _ => inferInstanceAs (Decidable (_ → ∀ chunk ∈ _, _))
  | .tick _ | .announce _ _ | .begin _ | .sweep _ | .resume _ => .isTrue trivial

/-- All blobs in the store are chunks, and sweeps have only canonical paths to remove. -/
structure Chunked (system : System) : Prop where
  stored : ∀ path data, system.store.blobs.get? path = some data →
    ∃ uploadId index, isValidId uploadId ∧ path = chunkPath uploadId index
  left : ∀ number flight, system.flights number = some flight →
    ∀ left ∈ flight.left?, ∀ path ∈ left, canonical path = .ok path

/-- Every chunk in the store is awaited. -/
structure Accounted (system : System) : Prop where
  coherent : system.Coherent
  tidy : system.Tidy
  named : system.Named
  awaited : ∀ uploadId index, isValidId uploadId → system.chunk? uploadId index ≠ none →
    system.Awaits uploadId index

/-- After some rounds of a call a chunk lies in the store under an identifier that leads nowhere. -/
def Leaks (system : System) (number : Nat) (uploadId : String) (index : Nat) : Prop :=
  ∃ count, (system.run (rounds number count)).chunk? uploadId index ≠ none ∧
    (system.run (rounds number count)).place? uploadId = none

end System

/-! ### What a removal has still to remove -/

section Removals

variable {cleanup rest : Cleanup} {answer : Outcome cleanup.request.Answer} {left : List String}

theorem Cleanup.left?_proceed {removed : Nat} {failure : Option ServiceError} {paths : List String}
    (further : Cleanup.proceed removed failure paths = .inl rest) :
    rest.left? none = if failure = none then some paths else none := by
  cases paths with
  | nil => cases failure <;> cases further
  | cons path others =>
    cases further
    cases failure <;> rfl

/-- When a removal goes on it has still to remove what it had before. -/
theorem Cleanup.left?_resume (further : cleanup.resume answer = .inl rest) :
    rest.left? none = cleanup.left? (some answer) := by
  cases cleanup with
  | listing directory =>
    cases answer with
    | error failure => cases further
    | ok paths => exact left?_proceed further
  | removing path others removed failure =>
    cases answer <;> rw [left?_proceed further] <;> cases failure <;> rfl

/-- A removal that has succeeded has nothing left to remove. -/
theorem Cleanup.left?_of_removed {removed : Nat} (ended : cleanup.resume answer = .inr (.ok removed)) :
    cleanup.left? (some answer) = some [] := by
  cases cleanup with
  | listing directory =>
    cases answer with
    | error failure => cases ended
    | ok paths =>
      cases paths with
      | nil => rfl
      | cons path others => cases ended
  | removing path others removed failure =>
    cases others with
    | cons next others => cases answer <;> cases ended
    | nil =>
      cases answer with
      | error error => cases ended
      | ok done =>
        cases failure with
        | none => rfl
        | some error => cases ended

/-- A removal of which nothing has failed removes what is left, or it is over. -/
theorem Cleanup.resume_of_left (known : cleanup.left? (some answer) = some left) :
    ∃ removed, cleanup.resume answer = Cleanup.proceed removed none left := by
  cases cleanup with
  | listing directory =>
    cases answer with
    | error failure => cases known
    | ok paths =>
      cases known
      exact ⟨0, rfl⟩
  | removing path others removed failure =>
    cases failure with
    | some error => cases answer <;> cases known
    | none =>
      cases answer with
      | error error => cases known
      | ok done =>
        cases known
        exact ⟨removed + 1, rfl⟩

/-- When the store has answered, a removal knows what it has listed, or it has removed the first of
what was left. -/
theorem Cleanup.left?_serve {fate : Fate} {store : Memory}
    (known : cleanup.left? (some (fate.meet store cleanup.request).2) = some left) :
    (∃ directory place, cleanup = listing directory ∧ canonical (storagePath directory) = .ok place ∧
        left = store.list place) ∨
      ∃ path removed, cleanup = removing path left removed none ∧ fate = .answered := by
  cases cleanup with
  | listing directory =>
    cases fate with
    | refused | lost => cases known
    | answered =>
      have listed : (listing directory).left?
          (some ((canonical (storagePath directory)).map store.list)) =
          some left := known
      cases leads : canonical (storagePath directory) with
      | error failure =>
        rw [leads] at listed
        cases listed
      | ok place =>
        rw [leads] at listed
        cases listed
        exact Or.inl ⟨directory, place, rfl, leads, rfl⟩
  | removing path rest removed failure =>
    cases failure with
    | some error => cases fate <;> simp [left?] at known
    | none =>
      cases fate with
      | refused | lost => cases known
      | answered =>
        have answered : (removing path rest removed none).left? (some (store.answer (.remove path)).2) =
            some left := known
        unfold Memory.answer at answered
        dsimp only at answered
        split at answered
        · cases answered
          exact Or.inr ⟨path, removed, rfl, rfl⟩
        · cases answered

/-- After a part of a call there is left what was left before. -/
theorem Part.left_of_left {now : Timestamp} {books after : Coordinator} {call : Call}
    {flight : Option Flight} {pending : Pending} (part : Part now books call flight after (some pending))
    (known : left ∈ Flight.left? { call, pending }) :
    ∃ held ∈ flight, left ∈ held.left? ∧ pending.handle? = held.pending.handle? := by
  cases part with
  | storeBegins | mergeBegins | mergeContinues | readBegins | readContinues => cases known
  | cancelBegins | cancelContinues | sweepBegins | sweepTurns => cases known
  | sweepContinues further => exact ⟨_, rfl, (Cleanup.left?_resume further).symm.trans known, rfl⟩

end Removals

section Parts

variable {now : Timestamp} {books after : Coordinator} {call : Call} {flight : Option Flight}
  {waits : Option Pending} {uploadId : String} {place : SessionId}

/-- A sweep that expects a chunk does not forget the identifier yet. -/
theorem Part.leads_of_expects (part : Part now books call flight after waits) (index : Nat)
    (leads : books.tracked.get? uploadId = some place)
    (expects : ∀ held ∈ flight, held.Expects uploadId place index) :
    after.tracked.get? uploadId = some place := by
  have released (identifier : String) (number : SessionId) (result : Outcome Nat)
      (ends : ∀ removed, result = .ok removed → ¬ (identifier = uploadId ∧ number = place)) :
      (books.release identifier number result).tracked.get? uploadId = some place := by
    cases result with
    | error failure => exact leads
    | ok removed =>
      refine Coordinator.get?_tracked_untrack.trans ((if_neg ?_).trans leads)
      rintro ⟨same, elsewhere⟩
      cases leads.symm.trans elsewhere
      exact ends removed rfl ⟨same, rfl⟩
  cases part with
  | ends | storeBegins | mergeBegins | mergeContinues => exact leads
  | cancelContinues | readBegins | readContinues | sweepContinues => exact leads
  | records | completes | cancelBegins | cancelEnds | sweepBegins => exact leads
  | sweepTurns ended taken =>
    refine released _ _ _ ?_
    rintro removed rfl ⟨rfl, rfl⟩
    exact List.not_mem_nil (expects _ rfl rfl _ (Cleanup.left?_of_removed ended))
  | sweepEnds ended =>
    refine released _ _ _ ?_
    rintro removed rfl ⟨rfl, rfl⟩
    exact List.not_mem_nil (expects _ rfl rfl _ (Cleanup.left?_of_removed ended))

end Parts

namespace System

variable {system : System} {event : Event} {number index : Nat} {uploadId : String} {left : List String}

/-! ### All blobs are chunks -/

namespace Chunked

theorem initial (config : UploadConfig) (clock : Timestamp) :
    (System.initial config {} clock).Chunked where
  stored _ _ there := by cases there
  left _ _ flies := by cases flies

theorem next (chunked : system.Chunked) (tidy : system.Tidy) (event : Event) :
    (system.next event).Chunked where
  stored path data there := by
    have moves := system.move event
    generalize system.next event = after at moves there
    cases moves with
    | idles | ticks | announces | begins | resumes => exact chunked.stored path data there
    | @serves number fate call pending waits =>
      have valid := tidy.valid number _ waits
      rcases fate.get?_meet system.store pending.request path with
        same | ⟨written, content, puts, leads, -⟩ | ⟨_, -, -, removed⟩
      · exact chunked.stored path data (same.symm.trans there)
      · cases pending with
        | merge | read => cases puts
        | cancel other place cleanup => cases cleanup <;> cases puts
        | sweep started other place cleanup waiting report => cases cleanup <;> cases puts
        | store other place position content =>
          cases puts
          rw [canonical_chunkPath (valid other List.mem_cons_self)] at leads
          cases leads
          exact ⟨other, position, valid other List.mem_cons_self, rfl⟩
      · cases removed.symm.trans there
  left := by
    refine flights_next
      (fun _ flight => ∀ left ∈ flight.left?, ∀ path ∈ left, canonical path = .ok path)
      (fun number flight flies _ => chunked.left number flight flies)
      (fun _ part left known => ?_) (fun {number fate call pending} _ waits left known path member => ?_)
      (fun {number flight books pending} flies part left known => ?_)
    · obtain ⟨held, none, -⟩ := part.left_of_left known
      cases none
    · cases pending with
      | store | merge | cancel | read => cases known
      | sweep started other place cleanup waiting report =>
        rcases Cleanup.left?_serve known with ⟨directory, root, -, -, rfl⟩ | ⟨first, removed, rfl, -⟩
        · obtain ⟨⟨blob, data⟩, bound, rfl⟩ :=
            List.mem_map.1 (List.mem_filter.1 (List.mem_mergeSort.1 member)).1
          obtain ⟨uploadId, index, valid, rfl⟩ :=
            chunked.stored blob data (Table.get?_eq_some_iff.2 bound)
          exact canonical_chunkPath valid
        · exact chunked.left number _ waits _ rfl path (List.mem_cons_of_mem _ member)
    · obtain ⟨held, same, before, -⟩ := part.left_of_left known
      cases same
      exact chunked.left number flight flies left before

theorem run (chunked : system.Chunked) (tidy : system.Tidy) (events : List Event) :
    (system.run events).Chunked := by
  induction events generalizing system with
  | nil => exact chunked
  | cons event rest inductionHypothesis =>
    exact inductionHypothesis (chunked.next tidy event) (tidy.next event)

end Chunked

/-! ### Chunks that arrive in time -/

/-- What a sweep expects it goes on expecting, as long as the chunk is there. -/
theorem expects_next (tidy : system.Tidy) {place : SessionId}
    (expects : ∀ number flight, system.flights number = some flight →
      flight.Expects uploadId place index)
    (there : (system.next event).chunk? uploadId index ≠ none) :
    ∀ number flight, (system.next event).flights number = some flight →
      flight.Expects uploadId place index := by
  intro number flight flies
  suffices ∀ number flight, (system.next event).flights number = some flight →
      (system.next event).flights number = some flight → flight.Expects uploadId place index from
    this number flight flies flies
  refine flights_next _ (fun number flight flew _ _ => expects number flight flew)
    (fun _ part _ _ left known => ?_)
    (fun {number fate call pending} served waits _ holds left known => ?_)
    (fun {number flight books pending} flew part _ holds left known => ?_)
  · obtain ⟨held, none, -⟩ := part.left_of_left known
    cases none
  · subst served
    have valid := tidy.valid number _ waits
    cases pending with
    | store | merge | cancel | read => cases known
    | sweep started other session cleanup waiting report =>
      cases holds
      rw [next_serve waits] at there
      rcases Cleanup.left?_serve known with
        ⟨directory, root, rfl, leads, rfl⟩ | ⟨path, removed, rfl, rfl⟩
      · -- the blobs are listed with the chunk among them
        obtain ⟨rfl, -⟩ := tidy.stays number _ waits
        rw [canonical_storagePath (valid directory List.mem_cons_self)] at leads
        cases leads
        refine chunkPath_mem_list fun gone => there ?_
        refine Eq.trans (congrArg (·.blobs.get? (chunkPath directory index)) (Fate.fst_meet ..)) ?_
        split <;> exact gone
      · -- the blob that is removed is another one
        have among := expects number _ waits rfl _ rfl
        refine (List.mem_cons.1 among).resolve_left ?_
        rintro rfl
        exact there (get?_answer_remove (valid uploadId List.mem_cons_self) system.store)
  · obtain ⟨held, same, before, sameHandle⟩ := part.left_of_left known
    cases same
    exact expects number flight flew (sameHandle ▸ holds) left before

namespace Accounted

theorem initial (config : UploadConfig) (clock : Timestamp) :
    (System.initial config {} clock).Accounted where
  coherent := .initial config {} clock
  tidy := .initial config {} clock
  named := .initial config {} clock
  awaited _ _ _ there := absurd rfl there

/-- A chunk that is in the store after an event has been awaited before. -/
theorem awaited_of_next (accounted : system.Accounted) (timely : system.Timely event)
    (valid : isValidId uploadId) (there : (system.next event).chunk? uploadId index ≠ none) :
    system.Awaits uploadId index := by
  rcases accounted.tidy.chunk?_next valid index event with
    same | ⟨number, fate, rfl, ⟨data, writes, -⟩ | ⟨-, removed⟩⟩
  · exact accounted.awaited uploadId index valid (same ▸ there)
  · cases reaches : fate.reaches with
    | false => exact accounted.awaited uploadId index valid (chunk?_refused reaches index ▸ there)
    | true =>
      obtain ⟨call, place, waits⟩ := writes
      refine timely reaches (uploadId, index) ?_
      rw [waits]
      rfl
  · exact absurd removed there

theorem next (accounted : system.Accounted) (timely : system.Timely event) :
    (system.next event).Accounted where
  coherent := accounted.coherent.next event
  tidy := accounted.tidy.next event
  named := accounted.named.next event
  awaited uploadId index valid there := by
    obtain ⟨place, leads, awaits⟩ := accounted.awaited_of_next timely valid there
    have expects (number : Nat) (flight : Flight) (flies : system.flights number = some flight) :
        flight.Expects uploadId place index :=
      awaits number (accounted.coherent.lt_begun flies) flight flies
    have expectsNext := expects_next accounted.tidy expects there
    suffices ∃ current, (system.next event).place? uploadId = some current ∧
        ∀ number flight, (system.next event).flights number = some flight →
          flight.Expects uploadId current index by
      obtain ⟨current, leadsNext, expectsCurrent⟩ := this
      exact ⟨current, leadsNext, fun number _ flight flies => expectsCurrent number flight flies⟩
    have moves := system.move event
    generalize system.next event = after at moves expectsNext
    cases moves with
    | idles | ticks | serves => exact ⟨place, leads, expectsNext⟩
    | begins opens part =>
      exact ⟨place, (part.tracked_iff fun _ none => by cases none).2 leads, expectsNext⟩
    | resumes answered part =>
      refine ⟨place, part.leads_of_expects index leads fun held same => ?_, expectsNext⟩
      cases same
      exact expects _ _ answered
    | announces user announced =>
      rcases system.coordinator.announce_cases user announced with same | ⟨equal, -⟩
      · exact ⟨place, (congrArg (·.tracked.get? uploadId) same).trans leads, expectsNext⟩
      · by_cases named : announced.uploadId = uploadId
        · -- no sweep has heard of the session that has just been made
          refine ⟨system.coordinator.sessions.size,
            (congrArg (·.1.tracked.get? uploadId) equal).trans ?_, fun number flight flies holds => ?_⟩
          · exact Coordinator.get?_tracked_track.trans (if_pos named)
          · intro left known
            have member : (uploadId, system.coordinator.sessions.size) ∈ flight.pending.bindings := by
              obtain ⟨call, pending, answer⟩ := flight
              cases pending with
              | store | merge | cancel | read => cases known
              | sweep started other session cleanup waiting report =>
                cases holds
                exact List.mem_cons_self
            obtain ⟨session, found, -⟩ := accounted.named.held number flight flies _ member
            exact absurd (Coordinator.lt_size_of_session? found) (Nat.lt_irrefl _)
        · refine ⟨place, (congrArg (·.1.tracked.get? uploadId) equal).trans ?_, expectsNext⟩
          exact (Coordinator.get?_tracked_track.trans (if_neg named)).trans leads

end Accounted

/-! ### Chunks that arrive too late -/

variable {call : Call} {started : Timestamp} {place : SessionId} {waiting : List (String × SessionId)}
  {report : SweepReport}

/-- A sweep that goes on removes the next blob, or if nothing is left it forgets the identifier. -/
theorem next_resume_of_left {cleanup : Cleanup} {answer : Outcome cleanup.request.Answer}
    (answered : system.flights number =
      some ⟨call, .sweep started uploadId place cleanup waiting report, some answer⟩)
    (known : cleanup.left? (some answer) = some left) (leads : system.place? uploadId = some place) :
    (system.next (.resume number)).store = system.store ∧
      match left with
      | [] => (system.next (.resume number)).place? uploadId = none
      | path :: rest => (system.next (.resume number)).place? uploadId = some place ∧
          ∃ removed, (system.next (.resume number)).flights number = some ⟨call,
            .sweep started uploadId place (.removing path rest removed none) waiting report, none⟩ := by
  obtain ⟨removed, goesOn⟩ := Cleanup.resume_of_left known
  rw [next_resume answered]
  refine ⟨rfl, ?_⟩
  unfold place?
  dsimp only [Coordinator.resume]
  rw [goesOn]
  cases left with
  | nil =>
    have forgotten : (system.coordinator.untrack uploadId place).tracked.get? uploadId = none :=
      Coordinator.get?_tracked_untrack.trans (if_pos ⟨rfl, leads⟩)
    dsimp only [Cleanup.proceed, Coordinator.continueSweep]
    rcases Coordinator.nextSweep_cases _ waiting with same | ⟨other, turn, later, -, same⟩
    · rw [same]
      exact forgotten
    · rw [same]
      exact forgotten
  | cons path rest => exact ⟨leads, removed, Function.update_self ..⟩

/-- A sweep that removes a blob leaves the chunks alone that lie elsewhere. -/
theorem next_serve_of_removing {path : String} {rest : List String} {removed : Nat}
    (there : system.chunk? uploadId index ≠ none)
    (waits : system.flights number = some ⟨call,
      .sweep started uploadId place (.removing path rest removed none) waiting report, none⟩)
    (missed : chunkPath uploadId index ∉ path :: rest) (plain : canonical path = .ok path) :
    ∃ store flights, system.next (.serve number .answered) = { system with store, flights } ∧
      store.blobs.get? (chunkPath uploadId index) ≠ none ∧
      flights number = some ⟨call,
        .sweep started uploadId place (.removing path rest removed none) waiting report,
        some (.ok ())⟩ := by
  have removes : system.store.answer (.remove path) = (⟨system.store.blobs.erase path⟩, .ok ()) := by
    dsimp only [Memory.answer]
    rw [plain]
  have serves := next_serve waits .answered
  dsimp only [Pending.request, Cleanup.request, Fate.meet] at serves
  rw [removes] at serves
  have stays : (system.store.blobs.erase path).get? (chunkPath uploadId index) ≠ none := by
    rw [Table.get?_erase, if_neg]
    · exact there
    · rintro rfl
      exact missed List.mem_cons_self
  exact ⟨⟨system.store.blobs.erase path⟩, _, serves, stays, Function.update_self ..⟩

/-- A call that leaks a chunk after a round does so after one round more. -/
theorem Leaks.of_round
    (leaks : ((system.next (.serve number .answered)).next (.resume number)).Leaks number uploadId
      index) :
    system.Leaks number uploadId index := by
  obtain ⟨count, there, forgotten⟩ := leaks
  exact ⟨count + 1, there, forgotten⟩

/-- A sweep that goes on, but has not the path of a chunk among what is left, forgets the identifier
and leaves the chunk behind, if nothing disturbs it. -/
theorem leaks_of_answered {cleanup : Cleanup} {answer : Outcome cleanup.request.Answer}
    (there : system.chunk? uploadId index ≠ none) (leads : system.place? uploadId = some place)
    (answered : system.flights number =
      some ⟨call, .sweep started uploadId place cleanup waiting report, some answer⟩)
    (known : cleanup.left? (some answer) = some left) (missed : chunkPath uploadId index ∉ left)
    (plain : ∀ path ∈ left, canonical path = .ok path) :
    (system.next (.resume number)).Leaks number uploadId index := by
  induction left generalizing system cleanup with
  | nil =>
    obtain ⟨sameStore, forgotten⟩ := next_resume_of_left answered known leads
    refine ⟨0, ?_, forgotten⟩
    unfold chunk?
    exact sameStore ▸ there
  | cons path rest inductionHypothesis =>
    obtain ⟨sameStore, leadsNext, removed, waits⟩ := next_resume_of_left answered known leads
    have thereNext : (system.next (.resume number)).chunk? uploadId index ≠ none := by
      unfold chunk?
      exact sameStore ▸ there
    obtain ⟨store, flights, serves, stays, met⟩ :=
      next_serve_of_removing thereNext waits missed (plain path List.mem_cons_self)
    refine .of_round ?_
    rw [serves]
    exact inductionHypothesis stays leadsNext met rfl
      (fun member => missed (List.mem_cons_of_mem _ member))
      fun other member => plain other (List.mem_cons_of_mem _ member)

/-- A sweep that will not remove a chunk of the identifier on which it works leaks it, if nothing
disturbs it. -/
theorem leaks_of_left {flight : Flight} (there : system.chunk? uploadId index ≠ none)
    (leads : system.place? uploadId = some place) (flies : system.flights number = some flight)
    (works : flight.pending.handle? = some (uploadId, place)) (known : left ∈ flight.left?)
    (missed : chunkPath uploadId index ∉ left) (plain : ∀ path ∈ left, canonical path = .ok path) :
    system.Leaks number uploadId index := by
  obtain ⟨call, pending, answer⟩ := flight
  cases pending with
  | store | merge | cancel | read => cases known
  | sweep started identifier session cleanup waiting report =>
    cases works
    refine .of_round ?_
    cases answer with
    | some answer =>
      have idles : system.next (.serve number .answered) = system :=
        congrArg Prod.fst (step_serve_of_answered flies .answered)
      rw [idles]
      exact leaks_of_answered there leads flies known missed plain
    | none =>
      cases cleanup with
      | listing directory => cases known
      | removing path rest removed failure =>
        cases failure with
        | some error => cases known
        | none =>
          cases known
          obtain ⟨store, flights, serves, stays, met⟩ :=
            next_serve_of_removing there flies missed (plain path List.mem_cons_self)
          rw [serves]
          exact leaks_of_answered stays leads met rfl
            (fun member => missed (List.mem_cons_of_mem _ member))
            fun other member => plain other (List.mem_cons_of_mem _ member)

/-- A chunk that nobody awaits when it reaches the store is leaked. -/
theorem leaks_of_untimely (tidy : system.Tidy) (chunked : system.Chunked)
    (untimely : ¬ system.Timely event) :
    ∃ uploadId index number, (system.next event).Leaks number uploadId index := by
  cases event with
  | tick | announce | begin | sweep | resume => exact absurd trivial untimely
  | serve number fate =>
    unfold Timely at untimely
    push Not at untimely
    obtain ⟨reaches, ⟨uploadId, index⟩, arrives, missed⟩ := untimely
    obtain ⟨⟨call, pending, answer⟩, flies, arriving⟩ := Option.bind_eq_some_iff.1 arrives
    cases pending with
    | merge | cancel | read | sweep => cases arriving
    | store identifier session position data =>
      cases answer with
      | some answer => cases arriving
      | none =>
        cases arriving
        have valid := tidy.valid number _ flies uploadId List.mem_cons_self
        have there : (system.next (.serve number fate)).chunk? uploadId index ≠ none := by
          rw [chunk?_of_reaches valid ⟨call, session, flies⟩ reaches, if_pos rfl]
          exact Option.some_ne_none data
        have books : (system.next (.serve number fate)).coordinator = system.coordinator := by
          rw [next_serve flies]
        have sameLead : (system.next (.serve number fate)).place? uploadId = system.place? uploadId :=
          congrArg (·.tracked.get? uploadId) books
        cases leads : system.place? uploadId with
        | none => exact ⟨uploadId, index, number, 0, there, sameLead.trans leads⟩
        | some place =>
          -- the sweep that is about to forget the identifier
          unfold Awaits Flight.Expects at missed
          push Not at missed
          obtain ⟨sweeper, -, flight, fliesSweep, works, left, known, forgets⟩ := missed place leads
          have other : sweeper ≠ number := by
            rintro rfl
            cases flies.symm.trans fliesSweep
            cases known
          have fliesNext : (system.next (.serve number fate)).flights sweeper = some flight := by
            rw [next_serve flies]
            exact (Function.update_of_ne other ..).trans fliesSweep
          exact ⟨uploadId, index, sweeper, leaks_of_left there (sameLead.trans leads) fliesNext works
            known forgets (chunked.left sweeper flight fliesSweep left known)⟩

/-! ### No chunk is leaked unless it arrives too late -/

/-- As long as every chunk that reaches the store is awaited there, all blobs are chunks under
identifiers that lead to sessions. And a chunk that is not awaited when it reaches the store is
leaked, at once or by a sweep in progress if nothing disturbs it. -/
theorem chunks_accounted (config : UploadConfig) (clock : Timestamp) (events : List Event) :
    let start := initial config {} clock
    (start.Obeys Timely events → ∀ path data, (start.run events).store.blobs.get? path = some data →
      ∃ uploadId index place session, path = chunkPath uploadId index ∧
        (start.run events).coordinator.find uploadId = .ok (place, session)) ∧
    ∀ event, ¬ (start.run events).Timely event →
      ∃ uploadId index number, ((start.run events).next event).Leaks number uploadId index := by
  intro start
  have tidy := (Tidy.initial config {} clock).run events
  have chunked := (Chunked.initial config clock).run (Tidy.initial config {} clock) events
  refine ⟨fun timely path data there => ?_,
    fun event untimely => leaks_of_untimely tidy chunked untimely⟩
  have accounted := Obeys.keeps Accounted.next (Accounted.initial config clock) timely
  obtain ⟨uploadId, index, valid, rfl⟩ := chunked.stored path data there
  obtain ⟨place, leads, -⟩ := accounted.awaited uploadId index valid
    fun gone => Option.some_ne_none data (there.symm.trans gone)
  obtain ⟨session, found, -⟩ := accounted.named.tracked uploadId place leads
  exact ⟨uploadId, index, place, session, rfl, Coordinator.find_eq_ok.2 ⟨leads, found⟩⟩

/-- An upload expires with a chunk and is swept while a chunk of another one is written. In a second
run an upload is cancelled and swept while its chunk is on the way, and so the chunk arrives after the
sweep. -/
theorem chunks_accounted_swept :
    let start := initial { sessionTtl := ⟨1000⟩ } {} ⟨0⟩
    let events : List Event :=
      [.announce 1 ⟨"a", "f", 1, 1⟩, .begin (.store "a" 0 "x".toUTF8), .serve 0 .answered, .resume 0,
        .tick ⟨1000⟩, .announce 2 ⟨"b", "f", 1, 1⟩, .sweep [("a", 0)],
        .begin (.store "b" 0 "y".toUTF8), .serve 1 .answered, .serve 2 .answered, .resume 1,
        .serve 1 .answered, .resume 1]
    let others : List Event :=
      [.announce 1 ⟨"u", "f", 1, 1⟩, .begin (.store "u" 0 "a".toUTF8), .begin (.cancel "u" 1),
        .serve 1 .answered, .resume 1, .sweep [("u", 0)], .serve 2 .answered, .resume 2]
    start.Obeys Timely events ∧
      (∃ uploadId index place session, chunkPath "b" 0 = chunkPath uploadId index ∧
        (start.run events).coordinator.find uploadId = .ok (place, session)) ∧
      ¬ (start.run others).Timely (.serve 0 .answered) ∧
      ∃ uploadId index number,
        ((start.run others).next (.serve 0 .answered)).Leaks number uploadId index := by
  intro start events others
  have timely : start.Obeys Timely events := by decide +kernel
  have there : ((initial { sessionTtl := ⟨1000⟩ } {} ⟨0⟩).run events).store.blobs.get?
      (chunkPath "b" 0) = some "y".toUTF8 := by decide +kernel
  have untimely : ¬ (start.run others).Timely (.serve 0 .answered) := by decide +kernel
  refine ⟨timely, ?_, untimely, ?_⟩
  · exact (chunks_accounted { sessionTtl := ⟨1000⟩ } ⟨0⟩ events).1 timely _ _ there
  · exact (chunks_accounted { sessionTtl := ⟨1000⟩ } ⟨0⟩ others).2 _ untimely

/-- An upload is cancelled and swept while its chunk is on the way. When all calls are over the chunk
is in the store, and the identifier leads to no session. -/
theorem chunks_unaccounted :
    let start := initial {} {} ⟨0⟩
    let events : List Event :=
      [.announce 1 ⟨"u", "f", 1, 1⟩, .begin (.store "u" 0 "a".toUTF8), .begin (.cancel "u" 1),
        .serve 1 .answered, .resume 1, .sweep [("u", 0)], .serve 2 .answered, .resume 2,
        .serve 0 .answered, .resume 0]
    start.Obeys Forward events ∧ (start.run events).begun = 3 ∧
      (∀ number < 3, ((start.run events).flights number).isNone) ∧
      (start.run events).chunk? "u" 0 = some "a".toUTF8 ∧ (start.run events).place? "u" = none := by
  decide +kernel

end System

end Community.Upload
