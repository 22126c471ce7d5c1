/-
This file says what becomes of the chunks in the store. A chunk is written by a call that stores it, and it is
removed by a call that removes the blobs of its upload; nothing else touches it. Two facts are behind this and
hold at all times: the identifiers in use can stand in a path, and a call that removes the blobs of an upload
has only paths in hand that lie directly under the directory of that upload.
-/

import Community.Proofs.Upload.Evolution
import Community.Proofs.Upload.Places

namespace Community.Upload

open Community.Blob

/-! ### The store and its requests -/

/-- Is the request carried out, whatever the caller hears of it? -/
def Fate.reaches : Fate → Bool
  | answered => true
  | refused _ => false
  | lost _ => true

theorem Fate.fst_meet (fate : Fate) (store : Memory) (request : Request) :
    (fate.meet store request).1 = if fate.reaches then (store.answer request).1 else store := by
  cases fate <;> rfl

/-- A blob is left alone by a request, or written by it, or removed. -/
theorem Fate.get?_meet (fate : Fate) (store : Memory) (request : Request) (place : String) :
    (fate.meet store request).1.blobs.get? place = store.blobs.get? place ∨
      (∃ path data, request = .put path data ∧ canonical path = .ok place ∧
        (fate.meet store request).1.blobs.get? place = some data) ∨
      ∃ path, request = .remove path ∧ canonical path = .ok place ∧
        (fate.meet store request).1.blobs.get? place = none := by
  rw [Fate.fst_meet]
  split
  · unfold Memory.answer
    cases request with
    | contains | fetch | list => exact Or.inl rfl
    | put path data =>
      dsimp only
      split
      · next found leads =>
        dsimp only
        rw [Table.get?_insert]
        split
        · next same => exact Or.inr (Or.inl ⟨path, data, rfl, same ▸ leads, rfl⟩)
        · exact Or.inl rfl
      · exact Or.inl rfl
    | remove path =>
      dsimp only
      split
      · next found leads =>
        dsimp only
        rw [Table.get?_erase]
        split
        · next same => exact Or.inr (Or.inr ⟨path, rfl, same ▸ leads, rfl⟩)
        · exact Or.inl rfl
      · exact Or.inl rfl
  · exact Or.inl rfl

/-! ### Removals stay in their directory -/

/-- All that a removal has in hand lies directly under the directory of an upload. -/
def Cleanup.Stays (uploadId : String) :
    (cleanup : Cleanup) → Option (Outcome cleanup.request.Answer) → Prop
  | listing other, answer => other = uploadId ∧ ∀ paths : List String, answer = some (.ok paths) →
      ∀ path ∈ paths, Memory.isDirectlyUnder (storagePath uploadId) path
  | removing path rest _ _, _ =>
      ∀ blob ∈ path :: rest, Memory.isDirectlyUnder (storagePath uploadId) blob

/-- A call that removes the blobs of an upload stays in the directory of that upload. -/
def Flight.Stays : Flight → Prop
  | ⟨_, .cancel uploadId _ cleanup, answer⟩ => cleanup.Stays uploadId answer
  | ⟨_, .sweep _ uploadId _ cleanup _ _, answer⟩ => cleanup.Stays uploadId answer
  | _ => True

/-- The identifiers that a call in progress works on, now or later. -/
def Pending.uploadIds : Pending → List String
  | .store uploadId .. => [uploadId]
  | .merge uploadId .. => [uploadId]
  | .cancel uploadId .. => [uploadId]
  | .read uploadId .. => [uploadId]
  | .sweep _ uploadId _ _ waiting _ => uploadId :: waiting.map Prod.fst

/-- The identifier that a call is about; a sweep is about none. -/
def Call.uploadId? : Call → Option String
  | .store uploadId .. => some uploadId
  | .merge uploadId => some uploadId
  | .cancel uploadId _ => some uploadId
  | .read uploadId => some uploadId
  | .sweep => none

/-- The identifiers in use can stand in a path, and removals stay in their directories. -/
structure System.Tidy (system : System) : Prop where
  tracked : ∀ uploadId place, system.coordinator.tracked.get? uploadId = some place →
    isValidId uploadId ∧ place < system.coordinator.sessions.size
  valid : ∀ number flight, system.flights number = some flight →
    ∀ uploadId ∈ flight.pending.uploadIds, isValidId uploadId
  stays : ∀ number flight, system.flights number = some flight → flight.Stays

section Parts

variable {now : Timestamp} {books after : Coordinator} {call : Call} {flight : Option Flight}
  {pending : Pending} {uploadId : String}

theorem Cleanup.stays_proceed {removed : Nat} {failure : Option ServiceError} {paths : List String}
    {rest : Cleanup} (under : ∀ path ∈ paths, Memory.isDirectlyUnder (storagePath uploadId) path)
    (further : Cleanup.proceed removed failure paths = .inl rest) : rest.Stays uploadId none := by
  cases paths with
  | nil => cases failure <;> cases further
  | cons path others =>
    cases further
    exact under

theorem Cleanup.Stays.resume {cleanup rest : Cleanup} {answer : Outcome cleanup.request.Answer}
    (stays : cleanup.Stays uploadId (some answer)) (further : cleanup.resume answer = .inl rest) :
    rest.Stays uploadId none := by
  cases cleanup with
  | listing other =>
    cases answer with
    | error failure => cases further
    | ok paths => exact stays_proceed (stays.2 paths rfl) further
  | removing path others removed failure =>
    have under : ∀ blob ∈ others, Memory.isDirectlyUnder (storagePath uploadId) blob :=
      fun blob member => stays blob (List.mem_cons_of_mem _ member)
    cases answer <;> exact stays_proceed under further

theorem Cleanup.stays_listing : (Cleanup.listing uploadId).Stays uploadId none :=
  ⟨rfl, fun _ none => by cases none⟩

theorem Part.stays (part : Part now books call flight after (some pending))
    (stayed : ∀ held ∈ flight, held.Stays) : Flight.Stays { call, pending } := by
  cases part with
  | storeBegins | mergeBegins | mergeContinues | readBegins | readContinues => trivial
  | cancelBegins | sweepBegins | sweepTurns => exact Cleanup.stays_listing
  | cancelContinues further => exact Cleanup.Stays.resume (stayed _ rfl) further
  | sweepContinues further => exact Cleanup.Stays.resume (stayed _ rfl) further

/-- A call that begins works on the identifier that it is about, and a sweep on those of abandoned sessions. -/
theorem Part.uploadIds_begins (part : Part now books call none after (some pending))
    (member : uploadId ∈ pending.uploadIds) :
    ∃ place session, books.find uploadId = .ok (place, session) ∧
      (call.uploadId? = some uploadId ∨ session.isAbandoned now) := by
  cases part with
  | storeBegins found accepts inRange =>
    cases List.mem_singleton.1 member
    exact ⟨_, _, found, Or.inl rfl⟩
  | mergeBegins found accepts =>
    cases List.mem_singleton.1 member
    exact ⟨_, _, found, Or.inl rfl⟩
  | cancelBegins found pending free =>
    cases List.mem_singleton.1 member
    exact ⟨_, _, found, Or.inl rfl⟩
  | readBegins found completed nonempty =>
    cases List.mem_singleton.1 member
    exact ⟨_, _, found, Or.inl rfl⟩
  | sweepBegins candidates taken =>
    obtain ⟨⟨_, place⟩, among, rfl⟩ := List.mem_map.1
      (show uploadId ∈ List.map Prod.fst ((_, _) :: _) from member)
    obtain ⟨bound, due⟩ := List.mem_filter.1 (candidates.mem_iff.1 (taken.suffix.subset among))
    dsimp only at due
    split at due
    · next session found =>
      obtain ⟨abandoned, -⟩ := Bool.and_eq_true_iff.1 due
      exact ⟨place, session, Coordinator.find_eq_ok.2 ⟨Table.get?_eq_some_iff.2 bound, found⟩,
        Or.inr abandoned⟩
    · cases due

/-- A call that goes on works on identifiers on which it worked before. -/
theorem Part.uploadIds_continues {held : Flight}
    (part : Part now books call (some held) after (some pending))
    (member : uploadId ∈ pending.uploadIds) : uploadId ∈ held.pending.uploadIds := by
  cases part with
  | mergeContinues | cancelContinues | readContinues | sweepContinues => exact member
  | sweepTurns ended taken =>
    obtain ⟨binding, among, rfl⟩ := List.mem_map.1
      (show uploadId ∈ List.map Prod.fst ((_, _) :: _) from member)
    exact List.mem_cons_of_mem _ (List.mem_map_of_mem (taken.suffix.subset among))

end Parts

/-! ### Systems are tidy -/

theorem isDirectlyUnder_of_mem_list {store : Memory} {directory path : String}
    (member : path ∈ store.list directory) : Memory.isDirectlyUnder directory path :=
  (List.mem_filter.1 (List.mem_mergeSort.1 member)).2

/-- The answer to a removal keeps it in its directory. -/
theorem Cleanup.Stays.serve {cleanup : Cleanup} {uploadId : String} {fate : Fate} {store : Memory}
    (stays : cleanup.Stays uploadId none) (valid : isValidId uploadId) :
    cleanup.Stays uploadId (some (fate.meet store cleanup.request).2) := by
  cases cleanup with
  | removing path rest removed failure => exact stays
  | listing other =>
    obtain ⟨rfl, -⟩ := stays
    refine ⟨rfl, fun paths answered path member => ?_⟩
    cases fate with
    | refused error => cases answered
    | lost error => cases answered
    | answered =>
      have listed : (canonical (storagePath other)).map store.list = .ok paths :=
        Option.some.inj answered
      rw [canonical_storagePath valid] at listed
      cases listed
      exact isDirectlyUnder_of_mem_list member

namespace System

variable {system : System} {event : Event}

namespace Tidy

theorem initial (config : UploadConfig) (store : Memory) (clock : Timestamp) :
    (System.initial config store clock).Tidy where
  tracked _ _ tracked := by cases tracked
  valid _ _ flies := by cases flies
  stays _ _ flies := by cases flies

theorem next (tidy : system.Tidy) (event : Event) : (system.next event).Tidy where
  tracked uploadId place leads := by
    rcases tracked_next leads with before | ⟨user, announced, -, -, valid, rfl, tracks⟩
    · obtain ⟨valid, inside⟩ := tidy.tracked uploadId place before
      obtain ⟨session, found, -⟩ :=
        system.grows_next event place _ (Array.getElem?_eq_getElem inside)
      exact ⟨valid, Coordinator.lt_size_of_session? found⟩
    · rw [tracks]
      exact ⟨valid, Nat.lt_of_lt_of_eq (Nat.lt_succ_self _) (Array.size_push _).symm⟩
  valid := by
    refine flights_next
      (fun _ flight => ∀ uploadId ∈ flight.pending.uploadIds, isValidId uploadId)
      (fun number flight flies _ => tidy.valid number flight flies)
      (fun _ part uploadId member => ?_)
      (fun {number fate call pending} _ waits => tidy.valid number ⟨call, pending, none⟩ waits)
      (fun flies part uploadId member => tidy.valid _ _ flies uploadId (part.uploadIds_continues member))
    obtain ⟨place, session, found, -⟩ := part.uploadIds_begins member
    exact (tidy.tracked uploadId place (Coordinator.find_eq_ok.1 found).1).1
  stays := by
    refine flights_next (fun _ flight => flight.Stays)
      (fun number flight flies _ => tidy.stays number flight flies)
      (fun _ part => part.stays fun _ none => by cases none) (fun {number fate call pending} _ waits => ?_)
      (fun flies part => part.stays fun held isFlight => ?_)
    · have stays := tidy.stays _ _ waits
      have valid := tidy.valid _ _ waits
      cases pending with
      | store | merge | read => trivial
      | cancel uploadId place cleanup =>
        exact Cleanup.Stays.serve stays (valid uploadId List.mem_cons_self)
      | sweep started uploadId place cleanup waiting report =>
        exact Cleanup.Stays.serve stays (valid uploadId List.mem_cons_self)
    · cases isFlight
      exact tidy.stays _ _ flies

theorem run (tidy : system.Tidy) (events : List Event) : (system.run events).Tidy := by
  induction events generalizing system with
  | nil => exact tidy
  | cons event rest inductionHypothesis => exact inductionHypothesis (tidy.next event)

theorem of_reachable {law : System → Event → Prop} (reachable : system.Reachable law) :
    system.Tidy :=
  reachable.holds initial fun tidy _ => tidy.next _

end Tidy

/-! ### Chunks -/

/-- The chunk of an index that the store holds for an identifier. -/
def chunk? (system : System) (uploadId : String) (index : Nat) : Option ByteArray :=
  system.store.blobs.get? (chunkPath uploadId index)

/-- The call with a number waits for a chunk to be written. -/
def Writes (system : System) (number : Nat) (uploadId : String) (index : Nat) (data : ByteArray) :
    Prop :=
  ∃ call place, system.flights number = some ⟨call, .store uploadId place index data, none⟩

/-- The call with a number is removing the blobs of an upload. -/
def Purges (system : System) (number : Nat) (uploadId : String) : Prop :=
  ∃ flight duty, system.flights number = some flight ∧ flight.pending.duty? = some duty ∧
    duty.uploadId = uploadId

/-- A chunk is left alone by an event, or it is what a call has just written, or a call that removes the
blobs of its upload has just removed it. -/
theorem Tidy.chunk?_next (tidy : system.Tidy) {uploadId : String} (valid : isValidId uploadId)
    (index : Nat) (event : Event) :
    (system.next event).chunk? uploadId index = system.chunk? uploadId index ∨
      ∃ number fate, event = .serve number fate ∧
        ((∃ data, system.Writes number uploadId index data ∧
            (system.next event).chunk? uploadId index = some data) ∨
          system.Purges number uploadId ∧ (system.next event).chunk? uploadId index = none) := by
  have moves := system.move event
  generalize system.next event = after at moves
  cases moves with
  | idles | ticks | announces | begins | resumes => exact Or.inl rfl
  | @serves number fate call pending waits =>
    have named := tidy.valid number _ waits
    have stays := tidy.stays number _ waits
    have purges {other path : String} {cleanup : Cleanup} (named : isValidId other)
        (stays : cleanup.Stays other none) (removes : cleanup.request = .remove path)
        (leads : canonical path = .ok (chunkPath uploadId index)) : other = uploadId := by
      cases cleanup with
      | listing directory => cases removes
      | removing first rest removed failure =>
        cases removes
        exact eq_of_isDirectlyUnder named valid (stays _ List.mem_cons_self) leads
    rcases fate.get?_meet system.store pending.request (chunkPath uploadId index) with
      same | ⟨path, data, puts, leads, becomes⟩ | ⟨path, removes, leads, becomes⟩
    · exact Or.inl same
    · refine Or.inr ⟨number, fate, rfl, Or.inl ⟨data, ?_, becomes⟩⟩
      cases pending with
      | merge | read => cases puts
      | cancel other place cleanup => cases cleanup <;> cases puts
      | sweep started other place cleanup waiting report => cases cleanup <;> cases puts
      | store other place position content =>
        cases puts
        rw [canonical_chunkPath (named other List.mem_cons_self)] at leads
        obtain ⟨rfl, rfl⟩ :=
          (chunkPath_inj (named other List.mem_cons_self) valid).1 (Except.ok.inj leads)
        exact ⟨call, place, waits⟩
    · refine Or.inr ⟨number, fate, rfl, Or.inr ⟨?_, becomes⟩⟩
      cases pending with
      | store | merge | read => cases removes
      | cancel other place cleanup =>
        exact ⟨_, _, waits, rfl, purges (named other List.mem_cons_self) stays removes leads⟩
      | sweep started other place cleanup waiting report =>
        exact ⟨_, _, waits, rfl, purges (named other List.mem_cons_self) stays removes leads⟩

end System

end Community.Upload
