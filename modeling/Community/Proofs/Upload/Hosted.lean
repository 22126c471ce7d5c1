/-
This file proves that nobody can tell from uploads in operation whether their chunks are kept in memory or in
files. Here a store of either kind answers the requests. As long as the requests are about chunks, a store in
a directory that was empty at first answers every sequence of them as a store in memory does; and since each
call asks for nothing but the chunks of its upload, all that the calls do and return is the same over both.
-/

import Community.Blob.Store
import Community.Proofs.Upload.ChunkFiles

/-! ### Requests to a store of either kind -/

namespace Community.Blob

instance Request.decidableEqAnswer : (request : Request) → DecidableEq request.Answer
  | .put .. => inferInstanceAs (DecidableEq Unit)
  | .contains _ => inferInstanceAs (DecidableEq Bool)
  | .fetch _ => inferInstanceAs (DecidableEq ByteArray)
  | .remove _ => inferInstanceAs (DecidableEq Unit)
  | .list _ => inferInstanceAs (DecidableEq (List String))

/-- The answers to requests that are made one after the other. -/
def Store.replies (store : Store) : List Request → List ((request : Request) × Outcome request.Answer)
  | [] => []
  | request :: rest => ⟨request, (store.answer request).2⟩ :: (store.answer request).1.replies rest

end Community.Blob

namespace Community.Upload

open Community.Blob

/-- Holds a store of either kind the same chunks as a store in memory, and nothing else? -/
def Mimics (store : Store) (memory : Memory) : Prop :=
  match store.backing with
  | .memory kept => kept = memory ∧ HoldsChunks memory
  | .directory directory => Mirrors directory.tree memory

variable {uploadId : String} {request : Request} {store : Store} {memory : Memory}

/-- A store that holds the same chunks answers alike, and holds the same chunks still. -/
theorem Mimics.answer (mimics : Mimics store memory) (valid : isValidId uploadId)
    (about : IsAbout uploadId request) :
    (store.answer request).2 = (memory.answer request).2 ∧
      Mimics (store.answer request).1 (memory.answer request).1 := by
  obtain ⟨backing, publicBaseUrl⟩ := store
  cases backing with
  | memory kept =>
    obtain ⟨rfl, chunks⟩ := mimics
    exact ⟨rfl, rfl, chunks.answer valid about⟩
  | directory directory => exact Mirrors.answer mimics valid about

/-- Stores that hold the same chunks answer requests about uploads alike, however many there are. -/
theorem Mimics.replies {other : Store} (mimics : Mimics store memory) (alsoMimics : Mimics other memory)
    {requests : List Request}
    (about : ∀ request ∈ requests, ∃ uploadId, isValidId uploadId ∧ IsAbout uploadId request) :
    store.replies requests = other.replies requests := by
  induction requests generalizing store other memory with
  | nil => rfl
  | cons request rest inductionHypothesis =>
    rw [List.forall_mem_cons] at about
    obtain ⟨uploadId, valid, isAbout⟩ := about.1
    obtain ⟨answers, still⟩ := mimics.answer valid isAbout
    obtain ⟨alsoAnswers, alsoStill⟩ := alsoMimics.answer valid isAbout
    rw [Store.replies, Store.replies, answers, alsoAnswers, inductionHypothesis still alsoStill about.2]

/-! ### Uploads over a store of either kind -/

/-- Deals with a request to a store of either kind. -/
def Fate.serve (store : Store) (request : Request) : Fate → Store × Outcome request.Answer
  | answered => store.answer request
  | refused error => (store, .error error)
  | lost error => ((store.answer request).1, .error error)

theorem Mimics.serve (mimics : Mimics store memory) (valid : isValidId uploadId)
    (about : IsAbout uploadId request) (fate : Fate) :
    (fate.serve store request).2 = (fate.meet memory request).2 ∧
      Mimics (fate.serve store request).1 (fate.meet memory request).1 := by
  obtain ⟨answers, still⟩ := mimics.answer valid about
  cases fate with
  | answered => exact ⟨answers, still⟩
  | refused error => exact ⟨rfl, mimics⟩
  | lost error => exact ⟨rfl, still⟩

/-- Uploads in operation over a store of either kind. -/
structure Hosted where
  coordinator : Coordinator
  store : Store
  clock : Timestamp
  begun : Nat := 0
  flights : Nat → Option Flight := fun _ => none

/-- The system with a store of either kind in place of its own. -/
def System.host (system : System) (store : Store) : Hosted :=
  { system with store }

namespace Hosted

/-- A system in which nothing has happened yet. -/
def initial (config : UploadConfig) (store : Store) (clock : Timestamp) : Hosted :=
  (System.initial config {} clock).host store

/-- All but the store: the system with an empty store in its place. -/
def bare (hosted : Hosted) : System :=
  { hosted with store := {} }

/-- Carries out an event. Only a request that is dealt with reaches the store. -/
def step (hosted : Hosted) : Event → Hosted × Option Notice
  | .serve number fate =>
    match hosted.flights number with
    | some { call, pending, answer := none } =>
      let (store, answer) := fate.serve hosted.store pending.request
      ({ hosted with
          store
          flights :=
            Function.update hosted.flights number (some { call, pending, answer := some answer }) },
        none)
    | _ => (hosted, none)
  | event =>
    let (bare, notice) := hosted.bare.step event
    (bare.host hosted.store, notice)

/-- What is there after some events. -/
def run (hosted : Hosted) : List Event → Hosted
  | [] => hosted
  | event :: rest => (hosted.step event).1.run rest

/-- What callers are told in the course of some events. -/
def notices (hosted : Hosted) : List Event → List Notice
  | [] => []
  | event :: rest => (hosted.step event).2.toList ++ (hosted.step event).1.notices rest

end Hosted

/-! ### What the store has to do with events -/

namespace System

variable {system : System} {event : Event}

/-- The system with another store in memory. -/
def withStore (system : System) (memory : Memory) : System :=
  { system with store := memory }

theorem settle_withStore (system : System) (memory : Memory) (number : Nat) (call : Call)
    (part : Coordinator × Progress) :
    (system.withStore memory).settle number call part =
        ((system.settle number call part).1.withStore memory, (system.settle number call part).2) ∧
      (system.settle number call part).1.store = system.store := by
  obtain ⟨coordinator, waiting | done⟩ := part <;> exact ⟨rfl, rfl⟩

/-- Only a request that is dealt with reaches the store; all else is the same over any store. -/
theorem step_withStore (system : System) (memory : Memory)
    (elsewhere : ∀ number fate, event ≠ .serve number fate) :
    (system.withStore memory).step event = ((system.next event).withStore memory, (system.step event).2) ∧
      (system.next event).store = system.store := by
  cases event with
  | tick | announce => exact ⟨rfl, rfl⟩
  | serve number fate => exact absurd rfl (elsewhere number fate)
  | begin call =>
    exact settle_withStore { system with begun := system.begun + 1 } memory system.begun call
      (system.coordinator.begin system.clock call)
  | sweep order =>
    -- both systems test the order against the same sessions, each through its own fields
    have begins (some : System) (isOrder : order.Perm (some.coordinator.abandoned some.clock)) :
        some.step (.sweep order) =
          some.enter .sweep (Coordinator.nextSweep some.clock {} order some.coordinator) := if_pos isOrder
    have idles (some : System) (noOrder : ¬ order.Perm (some.coordinator.abandoned some.clock)) :
        some.step (.sweep order) = (some, none) := if_neg noOrder
    by_cases isOrder : order.Perm (system.coordinator.abandoned system.clock)
    · rw [next, begins system isOrder, begins (system.withStore memory) isOrder]
      exact settle_withStore { system with begun := system.begun + 1 } memory ..
    · rw [next, idles system isOrder, idles (system.withStore memory) isOrder]
      exact ⟨rfl, rfl⟩
  | resume number =>
    unfold next step
    dsimp only [withStore]
    split
    · exact settle_withStore ..
    · exact ⟨rfl, rfl⟩

theorem step_eq_bare (hosted : Hosted) (elsewhere : ∀ number fate, event ≠ .serve number fate) :
    hosted.step event = ((hosted.bare.step event).1.host hosted.store, (hosted.bare.step event).2) := by
  cases event with
  | serve number fate => exact absurd rfl (elsewhere number fate)
  | tick | announce | begin | sweep | resume => rfl

/-- A request over a store that holds the same chunks is dealt with in the same way. -/
theorem serve_host {store : Store} (mimics : Mimics store system.store) (tidy : system.Tidy)
    (confined : system.Confined) (number : Nat) (fate : Fate) :
    ∃ after, (system.host store).step (.serve number fate) =
        ((system.next (.serve number fate)).host after, (system.step (.serve number fate)).2) ∧
      Mimics after (system.next (.serve number fate)).store := by
  unfold Hosted.step next step
  dsimp only [host]
  cases flies : system.flights number with
  | none => exact ⟨store, rfl, mimics⟩
  | some flight =>
    have valid := tidy.valid number flight flies _ flight.pending.upload_mem_uploadIds
    obtain ⟨answers, still⟩ := mimics.serve valid (confined.isAbout tidy flies) fate
    obtain ⟨call, pending, answer⟩ := flight
    cases answer with
    | some answer => exact ⟨store, rfl, mimics⟩
    | none =>
      refine ⟨(fate.serve store pending.request).1, ?_, still⟩
      dsimp only at answers ⊢
      rw [answers]

/-- An event over a store that holds the same chunks is the same event. -/
theorem step_host {store : Store} (mimics : Mimics store system.store) (tidy : system.Tidy)
    (confined : system.Confined) (event : Event) :
    ∃ after, (system.host store).step event = ((system.next event).host after, (system.step event).2) ∧
      Mimics after (system.next event).store := by
  by_cases elsewhere : ∀ number fate, event ≠ .serve number fate
  · obtain ⟨steps, stored⟩ := system.step_withStore {} elsewhere
    rw [step_eq_bare _ elsewhere]
    exact ⟨store, congrArg (fun result => (result.1.host store, result.2)) steps, stored ▸ mimics⟩
  · simp only [not_forall, not_not] at elsewhere
    obtain ⟨number, fate, rfl⟩ := elsewhere
    exact serve_host mimics tidy confined number fate

/-- The same events over a store that holds the same chunks come to the same. -/
theorem run_host {store : Store} (mimics : Mimics store system.store) (tidy : system.Tidy)
    (sound : system.Sound) (confined : system.Confined) (events : List Event) :
    (∃ after, (system.host store).run events = (system.run events).host after) ∧
      (system.host store).notices events = system.notices events := by
  induction events generalizing system store with
  | nil => exact ⟨⟨store, rfl⟩, rfl⟩
  | cons event rest inductionHypothesis =>
    obtain ⟨after, steps, still⟩ := step_host mimics tidy confined event
    obtain ⟨runs, told⟩ :=
      inductionHypothesis still (tidy.next event) (sound.next event) (confined.next tidy sound event)
    rw [Hosted.run, Hosted.notices, steps, run, notices, told]
    exact ⟨runs, rfl⟩

end System

/-- A store of files in a directory that is empty at first answers requests about uploads as a store in memory
does, whichever uploads they are about and however many there are. Uploads over the one go as they go over the
other, whatever happens and whatever becomes of the requests: callers are told the same, and all but the store
is the same in the end. -/
theorem files_refine_memory (root publicBaseUrl : String) :
    let files : Store := { backing := .directory { root }, publicBaseUrl }
    let memory : Store := { backing := .memory {}, publicBaseUrl }
    (∀ requests : List Request,
      (∀ request ∈ requests, ∃ uploadId, isValidId uploadId ∧ IsAbout uploadId request) →
      files.replies requests = memory.replies requests) ∧
    ∀ config clock events,
      (Hosted.initial config files clock).notices events =
        (Hosted.initial config memory clock).notices events ∧
      ((Hosted.initial config files clock).run events).bare =
        ((Hosted.initial config memory clock).run events).bare ∧
      (Hosted.initial config memory clock).notices events =
        (System.initial config {} clock).notices events := by
  intro files memory
  have chunks : HoldsChunks {} := fun path data there => by cases there
  have filesMimic : Mimics files {} := Mirrors.empty
  have memoryMimics : Mimics memory {} := ⟨rfl, chunks⟩
  refine ⟨fun requests about => filesMimic.replies memoryMimics about, fun config clock events => ?_⟩
  have hosted {store : Store} (mimics : Mimics store {}) :=
    System.run_host mimics (.initial config {} clock) (.initial ..) (.initial config chunks clock) events
  obtain ⟨⟨filesAfter, filesRun⟩, filesTell⟩ := hosted filesMimic
  obtain ⟨⟨memoryAfter, memoryRun⟩, memoryTells⟩ := hosted memoryMimics
  refine ⟨filesTell.trans memoryTells.symm, ?_, memoryTells⟩
  rw [Hosted.initial, filesRun, Hosted.initial, memoryRun]
  rfl

/-- The chunk of one upload is written and listed while there are none of the other one; when it has been
removed, and its directory with it, it cannot be read. -/
theorem files_refine_memory_removed :
    let requests : List Request :=
      [.put (chunkPath "a" 0) "x".toUTF8, .list (storagePath "a"), .list (storagePath "b"),
        .remove (chunkPath "a" 0), .contains (chunkPath "a" 0), .fetch (chunkPath "a" 0)]
    let files : Store := { backing := .directory { root := "/blobs" }, publicBaseUrl := "" }
    (∀ request ∈ requests, ∃ uploadId, isValidId uploadId ∧ IsAbout uploadId request) ∧
      files.replies requests =
        [⟨.put (chunkPath "a" 0) "x".toUTF8, .ok ()⟩, ⟨.list (storagePath "a"), .ok [chunkPath "a" 0]⟩,
          ⟨.list (storagePath "b"), .ok []⟩, ⟨.remove (chunkPath "a" 0), .ok ()⟩,
          ⟨.contains (chunkPath "a" 0), .ok false⟩,
          ⟨.fetch (chunkPath "a" 0), .error (.notFound "blob chunks/a/chunk_0")⟩] := by
  intro requests files
  have about : ∀ request ∈ requests, ∃ uploadId, isValidId uploadId ∧ IsAbout uploadId request := by
    simp only [requests, List.forall_mem_cons]
    exact ⟨⟨"a", by decide +kernel, 0, by decide, rfl⟩, ⟨"a", by decide +kernel, rfl⟩,
      ⟨"b", by decide +kernel, rfl⟩, ⟨"a", by decide +kernel, 0, by decide, rfl⟩,
      ⟨"a", by decide +kernel, 0, by decide, rfl⟩, ⟨"a", by decide +kernel, 0, by decide, rfl⟩,
      List.forall_mem_nil _⟩
  refine ⟨about, ((files_refine_memory "/blobs" "").1 requests about).trans ?_⟩
  decide +kernel

end Community.Upload
