/-
This file proves that every call keeps to the chunks of the upload on which it works. A request is about an
upload if it asks for one of its chunks or lists its directory. A store that holds nothing but chunks holds
nothing else after such a request; the answer to the request depends on the chunks of that upload alone; and a
listing shows just these. At every moment each call in progress waits for a request about
its own upload, which for a sweep is the one whose blobs it is removing.
-/

import Community.Proofs.Blob.Listing
import Community.Proofs.Upload.Blobs
import Community.Proofs.Upload.Lifecycle

namespace Community.Upload

open Community.Blob

/-! ### Requests about an upload -/

/-- Is the path that of a chunk? Its index has 32 bits. -/
def IsChunkOf (uploadId path : String) : Prop :=
  ∃ index < UInt32.size, path = chunkPath uploadId index

/-- Does the request ask for a chunk of an upload, or for the list of its chunks? -/
def IsAbout (uploadId : String) : Request → Prop
  | .put path _ => IsChunkOf uploadId path
  | .contains path => IsChunkOf uploadId path
  | .fetch path => IsChunkOf uploadId path
  | .remove path => IsChunkOf uploadId path
  | .list directory => directory = storagePath uploadId

/-- Is the path that of a chunk of any upload? -/
def IsChunk (path : String) : Prop :=
  ∃ uploadId, isValidId uploadId ∧ IsChunkOf uploadId path

/-- All that a store holds are chunks. -/
def HoldsChunks (store : Memory) : Prop :=
  ∀ path data, store.blobs.get? path = some data → IsChunk path

/-- Two stores hold the same chunks of an upload. -/
def Agree (uploadId : String) (store other : Memory) : Prop :=
  ∀ path, IsChunkOf uploadId path → store.blobs.get? path = other.blobs.get? path

variable {uploadId identifier path : String} {request : Request} {store other : Memory}

theorem IsChunkOf.canonical (valid : isValidId uploadId) (chunk : IsChunkOf uploadId path) :
    canonical path = .ok path := by
  obtain ⟨index, -, rfl⟩ := chunk
  exact canonical_chunkPath valid

theorem IsChunk.of_isDirectlyUnder (chunk : IsChunk path) (valid : isValidId uploadId)
    (under : Memory.isDirectlyUnder (storagePath uploadId) path) : IsChunkOf uploadId path := by
  obtain ⟨identifier, alsoValid, index, small, rfl⟩ := chunk
  cases eq_of_isDirectlyUnder valid alsoValid under (canonical_chunkPath alsoValid)
  exact ⟨index, small, rfl⟩

/-! ### What a request about an upload does and sees -/

/-- The directory of an upload shows its chunks and nothing else. -/
theorem HoldsChunks.mem_list (chunks : HoldsChunks store) (valid : isValidId uploadId) :
    path ∈ store.list (storagePath uploadId) ↔
      IsChunkOf uploadId path ∧ ∃ data, store.blobs.get? path = some data := by
  rw [Memory.mem_list]
  refine and_congr_left fun ⟨data, there⟩ => ⟨fun under => ?_, ?_⟩
  · exact (chunks path data there).of_isDirectlyUnder valid under
  · rintro ⟨index, -, rfl⟩
    exact isDirectlyUnder_chunkPath uploadId index

theorem HoldsChunks.answer (chunks : HoldsChunks store) (valid : isValidId uploadId)
    (about : IsAbout uploadId request) : HoldsChunks (store.answer request).1 := by
  intro path data there
  cases request with
  | contains | fetch | list => exact chunks path data there
  | put place content =>
    have chunk : IsChunkOf uploadId place := about
    simp only [Memory.answer, chunk.canonical valid, Table.get?_insert] at there
    split at there
    · next same => exact same ▸ ⟨uploadId, valid, chunk⟩
    · exact chunks path data there
  | remove place =>
    have chunk : IsChunkOf uploadId place := about
    simp only [Memory.answer, chunk.canonical valid, Table.get?_erase] at there
    split at there
    · cases there
    · exact chunks path data there

/-- The answer to a request about an upload depends on the chunks of that upload alone. -/
theorem IsAbout.answer_congr (valid : isValidId uploadId) (about : IsAbout uploadId request)
    (chunks : HoldsChunks store) (alsoChunks : HoldsChunks other) (agree : Agree uploadId store other) :
    (store.answer request).2 = (other.answer request).2 := by
  cases request with
  | put place content =>
    have asked : IsChunkOf uploadId place := about
    simp only [Memory.answer, asked.canonical valid]
  | remove place =>
    have asked : IsChunkOf uploadId place := about
    simp only [Memory.answer, asked.canonical valid]
  | contains place =>
    have asked : IsChunkOf uploadId place := about
    simp only [Memory.answer, asked.canonical valid, Except.map, Table.contains, agree place asked]
  | fetch place =>
    have asked : IsChunkOf uploadId place := about
    simp only [Memory.answer, asked.canonical valid, Except.bind, agree place asked]
  | list directory =>
    cases (about : directory = storagePath uploadId)
    have same : store.list (storagePath uploadId) = other.list (storagePath uploadId) := by
      refine Memory.list_congr fun path under => ⟨?_, ?_⟩
      · rintro ⟨data, there⟩
        have chunk := (chunks path data there).of_isDirectlyUnder valid under
        exact ⟨data, (agree path chunk).symm.trans there⟩
      · rintro ⟨data, there⟩
        have chunk := (alsoChunks path data there).of_isDirectlyUnder valid under
        exact ⟨data, (agree path chunk).trans there⟩
    simp only [Memory.answer, canonical_storagePath valid, Except.map, same]

/-! ### Calls in progress -/

/-- The upload on which a call works at the moment. -/
def Pending.upload : Pending → String
  | .store uploadId .. => uploadId
  | .merge uploadId .. => uploadId
  | .cancel uploadId .. => uploadId
  | .read uploadId .. => uploadId
  | .sweep _ uploadId .. => uploadId

/-- The indices in the hands of a call have 32 bits. -/
def Pending.IsIndexed : Pending → Prop
  | .store _ _ index _ => index < UInt32.size
  | .merge _ _ total index _ => total < UInt32.size ∧ index < UInt32.size
  | .read _ total index _ => total < UInt32.size ∧ index < UInt32.size
  | _ => True

/-- The paths that a removal has in hand. -/
def Cleanup.paths : (cleanup : Cleanup) → Option (Outcome cleanup.request.Answer) → List String
  | listing _, some (.ok paths) => paths
  | listing _, _ => []
  | removing path rest _ _, _ => path :: rest

/-- The paths that a call in progress has in hand. -/
def Flight.paths : Flight → List String
  | ⟨_, .cancel _ _ cleanup, answer⟩ => cleanup.paths answer
  | ⟨_, .sweep _ _ _ cleanup _ _, answer⟩ => cleanup.paths answer
  | _ => []

/-- The store holds nothing but chunks, and calls have nothing else in hand. -/
structure System.Confined (system : System) : Prop where
  stored : HoldsChunks system.store
  paths : ∀ number flight, system.flights number = some flight → ∀ path ∈ flight.paths, IsChunk path
  indexed : ∀ number flight, system.flights number = some flight → flight.pending.IsIndexed

theorem Pending.upload_mem_uploadIds (pending : Pending) : pending.upload ∈ pending.uploadIds := by
  cases pending <;> exact List.mem_cons_self

/-! ### Paths in hand -/

section Removals

variable {cleanup rest : Cleanup} {answer : Outcome cleanup.request.Answer}

theorem Cleanup.paths_proceed {removed : Nat} {failure : Option ServiceError} {paths : List String}
    (further : Cleanup.proceed removed failure paths = .inl rest) : rest.paths none = paths := by
  cases paths with
  | nil => cases failure <;> cases further
  | cons path others =>
    cases further
    rfl

/-- A removal that goes on has the paths in hand that it had before, but for the one it is done with. -/
theorem Cleanup.paths_resume (further : cleanup.resume answer = .inl rest) :
    rest.paths none ⊆ cleanup.paths (some answer) := by
  cases cleanup with
  | listing directory =>
    cases answer with
    | error failure => cases further
    | ok paths =>
      rw [paths_proceed further]
      exact List.Subset.refl _
  | removing path others removed failure =>
    have left : rest.paths none = others := by
      cases answer <;> exact paths_proceed further
    rw [left]
    exact List.subset_cons_self _ _

/-- What a removal has in hand after an answer it had before, or the store holds it. -/
theorem Cleanup.paths_serve {fate : Fate}
    (member : path ∈ cleanup.paths (some (fate.meet store cleanup.request).2)) :
    path ∈ cleanup.paths none ∨ ∃ data, store.blobs.get? path = some data := by
  cases cleanup with
  | removing first others removed failure => exact Or.inl member
  | listing directory =>
    cases fate with
    | refused | lost => cases member
    | answered =>
      have listed : path ∈ (listing directory).paths
          (some ((canonical (storagePath directory)).map store.list)) := member
      cases leads : canonical (storagePath directory) with
      | error failure =>
        rw [leads] at listed
        cases listed
      | ok place =>
        rw [leads] at listed
        exact Or.inr (Memory.mem_list.1 listed).2

end Removals

section Parts

variable {now : Timestamp} {books after : Coordinator} {call : Call} {flight : Option Flight}
  {pending : Pending}

/-- A call that goes on has no paths in hand that it did not have before. -/
theorem Part.paths (part : Part now books call flight after (some pending))
    (member : path ∈ Flight.paths { call, pending }) : ∃ held ∈ flight, path ∈ held.paths := by
  cases part with
  | storeBegins | mergeBegins | mergeContinues | readBegins | readContinues => cases member
  | cancelBegins | sweepBegins | sweepTurns => cases member
  | cancelContinues further => exact ⟨_, rfl, Cleanup.paths_resume further member⟩
  | sweepContinues further => exact ⟨_, rfl, Cleanup.paths_resume further member⟩

theorem Part.isIndexed (part : Part now books call flight after (some pending))
    (sound : ∀ place session, books.session? place = some session → session.Sound)
    (indexed : ∀ held ∈ flight, held.pending.IsIndexed) : pending.IsIndexed := by
  have bounded {uploadId : String} {place : SessionId} {session : Session}
      (found : books.find uploadId = .ok (place, session)) : session.totalChunks < UInt32.size :=
    (sound place session (Coordinator.find_eq_ok.1 found).2).bounded
  cases part with
  | cancelBegins | cancelContinues | sweepBegins | sweepContinues | sweepTurns => trivial
  | storeBegins found accepts inRange => exact Nat.lt_trans inRange (bounded found)
  | mergeBegins found accepts => exact ⟨bounded found, by decide⟩
  | readBegins found completed nonempty => exact ⟨bounded found, by decide⟩
  | mergeContinues further =>
    have total := (indexed _ rfl).1
    exact ⟨total, Nat.lt_trans further total⟩
  | readContinues further =>
    have total := (indexed _ rfl).1
    exact ⟨total, Nat.lt_trans further total⟩

end Parts

/-! ### Systems are confined -/

namespace System.Confined

variable {system : System} {number : Nat} {flight : Flight}

theorem initial (config : UploadConfig) (chunks : HoldsChunks store) (clock : Timestamp) :
    (System.initial config store clock).Confined where
  stored := chunks
  paths _ _ flies := by cases flies
  indexed _ _ flies := by cases flies

/-- A call that removes blobs has only chunks of its own upload to remove. -/
theorem isChunkOf (confined : system.Confined) (tidy : system.Tidy)
    (flies : system.flights number = some flight) (member : path ∈ flight.paths) :
    IsChunkOf flight.pending.upload path := by
  have chunk := confined.paths number flight flies path member
  have valid := tidy.valid number flight flies _ flight.pending.upload_mem_uploadIds
  have stays := tidy.stays number flight flies
  have under {uploadId : String} {cleanup : Cleanup} {answer : Option (Outcome cleanup.request.Answer)}
      (stays : cleanup.Stays uploadId answer) (member : path ∈ cleanup.paths answer) :
      Memory.isDirectlyUnder (storagePath uploadId) path := by
    cases cleanup with
    | removing first others removed failure => exact stays path member
    | listing directory =>
      match answer with
      | some (.ok paths) => exact stays.2 paths rfl path member
  obtain ⟨call, pending, answer⟩ := flight
  cases pending with
  | store | merge | read => cases member
  | cancel uploadId place cleanup => exact chunk.of_isDirectlyUnder valid (under stays member)
  | sweep started uploadId place cleanup waiting report =>
    exact chunk.of_isDirectlyUnder valid (under stays member)

/-- What a call waits for is about the upload on which it works. -/
theorem isAbout (confined : system.Confined) (tidy : system.Tidy)
    (flies : system.flights number = some flight) :
    IsAbout flight.pending.upload flight.pending.request := by
  have chunk (path : String) (member : path ∈ flight.paths) := confined.isChunkOf tidy flies member
  have indexed := confined.indexed number flight flies
  have stays := tidy.stays number flight flies
  have removal {uploadId : String} {cleanup : Cleanup} {answer : Option (Outcome cleanup.request.Answer)}
      (stays : cleanup.Stays uploadId answer)
      (chunk : ∀ path, path ∈ cleanup.paths answer → IsChunkOf uploadId path) :
      IsAbout uploadId cleanup.request := by
    cases cleanup with
    | listing directory => exact congrArg storagePath stays.1
    | removing first others removed failure => exact chunk first List.mem_cons_self
  obtain ⟨call, pending, answer⟩ := flight
  cases pending with
  | store uploadId place index data => exact ⟨index, indexed, rfl⟩
  | merge uploadId place total index missing => exact ⟨index, indexed.2, rfl⟩
  | read uploadId total index assembled => exact ⟨index, indexed.2, rfl⟩
  | cancel uploadId place cleanup => exact removal stays chunk
  | sweep started uploadId place cleanup waiting report => exact removal stays chunk

theorem next (confined : system.Confined) (tidy : system.Tidy) (sound : system.Sound) (event : Event) :
    (system.next event).Confined where
  stored := by
    have moves := system.move event
    generalize system.next event = after at moves
    cases moves with
    | idles | ticks | announces | begins | resumes => exact confined.stored
    | @serves number fate call pending waits =>
      have valid := tidy.valid number _ waits _ pending.upload_mem_uploadIds
      dsimp only
      rw [Fate.fst_meet]
      split
      · exact confined.stored.answer valid (confined.isAbout tidy waits)
      · exact confined.stored
  paths := by
    refine flights_next (fun _ flight => ∀ path ∈ flight.paths, IsChunk path)
      (fun number flight flies _ => confined.paths number flight flies)
      (fun _ part path member => ?_) (fun {number fate call pending} _ waits path member => ?_)
      (fun {number flight books pending} flies part path member => ?_)
    · obtain ⟨held, none, -⟩ := part.paths member
      cases none
    · have before := confined.paths number _ waits path
      have served {cleanup : Cleanup}
          (before : path ∈ cleanup.paths none → IsChunk path)
          (member : path ∈ cleanup.paths (some (fate.meet system.store cleanup.request).2)) :
          IsChunk path := by
        rcases Cleanup.paths_serve member with had | ⟨data, there⟩
        · exact before had
        · exact confined.stored path data there
      cases pending with
      | store | merge | read => cases member
      | cancel uploadId place cleanup => exact served before member
      | sweep started uploadId place cleanup waiting report => exact served before member
    · obtain ⟨held, same, among⟩ := part.paths member
      cases same
      exact confined.paths number flight flies path among
  indexed := by
    refine flights_next (fun _ flight => flight.pending.IsIndexed)
      (fun number flight flies _ => confined.indexed number flight flies)
      (fun _ part => part.isIndexed sound.sessions fun _ none => by cases none)
      (fun {number fate call pending} _ waits => confined.indexed number ⟨call, pending, none⟩ waits)
      (fun {number flight books pending} flies part => part.isIndexed sound.sessions fun _ same => by
        cases same
        exact confined.indexed number flight flies)

theorem run (confined : system.Confined) (tidy : system.Tidy) (sound : system.Sound)
    (events : List Event) : (system.run events).Confined := by
  induction events generalizing system with
  | nil => exact confined
  | cons event rest inductionHypothesis =>
    exact inductionHypothesis (confined.next tidy sound event) (tidy.next event) (sound.next event)

end System.Confined

end Community.Upload
