/-
This file carries out the calls on uploads that need the blob store. A call alternates between the books and
the store: it looks at the books, asks the store for something, and when the answer is there it looks at the
books again, which other calls may have changed in the meantime. `begin` is the part of a call before its
first request; a call that is not over then is pending on a request, and `resume` is the part from one answer
to the next request. Each part is one step that nothing can come between; everything that happens between two
calls happens between such steps.
-/

import Community.Blob.Request
import Community.Upload.Coordinator

namespace Community.Upload

open Community.Blob

/-- A call on uploads that needs the blob store. -/
inductive Call where
  /-- Stores one chunk and records it. -/
  | store (uploadId : String) (index : Nat) (data : ByteArray)
  /-- Completes an upload if the store holds all of its chunks. -/
  | merge (uploadId : String)
  /-- Cancels a pending upload and removes its blobs. -/
  | cancel (uploadId : String) (user : UInt64)
  /-- Reads the chunks of a completed upload, put together. -/
  | read (uploadId : String)
  /-- Removes every abandoned session with its blobs. -/
  | sweep
  deriving DecidableEq

/-- What a sweep did: the sessions it removed, the blobs of those, and the sessions whose blobs it could
not remove, which the next sweep takes up again. -/
structure SweepReport where
  removedSessions : Nat := 0
  removedBlobs : Nat := 0
  failed : Nat := 0
  deriving DecidableEq, Repr

/-- What a call returns when it succeeds. -/
inductive Reply where
  | stored
  | merged (reference : Reference)
  | cancelled
  | assembled (data : ByteArray)
  | swept (report : SweepReport)
  deriving DecidableEq

/-! ### Removing the blobs of an upload -/

/-- The removal of an upload's blobs: first its directory is listed, then each blob is removed in turn. A
blob that cannot be removed does not stop the others; the first failure is the outcome. -/
inductive Cleanup where
  | listing (uploadId : String)
  | removing (path : String) (rest : List String) (removed : Nat) (failure : Option ServiceError)
  deriving DecidableEq

namespace Cleanup

/-- What a removal waits for. -/
def request : Cleanup → Request
  | listing uploadId => .list (storagePath uploadId)
  | removing path .. => .remove path

/-- A removal goes on, or it is over with the number of blobs removed. -/
abbrev Next := Cleanup ⊕ Outcome Nat

/-- Goes on with the paths that are left. -/
def proceed (removed : Nat) (failure : Option ServiceError) : List String → Next
  | path :: rest => .inl (removing path rest removed failure)
  | [] =>
    match failure with
    | some error => .inr (.error error)
    | none => .inr (.ok removed)

/-- Takes the answer to the request. -/
def resume : (cleanup : Cleanup) → Outcome cleanup.request.Answer → Next
  | listing _, .error error => .inr (.error error)
  | listing _, .ok paths => Cleanup.proceed 0 none paths
  | removing _ rest removed failure, .ok _ => Cleanup.proceed (removed + 1) failure rest
  | removing _ rest removed failure, .error error =>
    Cleanup.proceed removed (some (failure.getD error)) rest

end Cleanup

/-! ### Calls in progress -/

/-- A call that waits for the blob store, with all it has to remember. -/
inductive Pending where
  | store (uploadId : String) (session : SessionId) (index : Nat) (data : ByteArray)
  /-- Waits to learn whether the chunk of an index is there; those before it that are not are `missing`. -/
  | merge (uploadId : String) (session : SessionId) (total index : Nat) (missing : List Nat)
  | cancel (uploadId : String) (session : SessionId) (cleanup : Cleanup)
  /-- Waits for the chunk of an index; those before it are `assembled`. -/
  | read (uploadId : String) (total index : Nat) (assembled : ByteArray)
  /-- Waits for the removal of one session's blobs; the sessions after it are `waiting`. -/
  | sweep (started : Timestamp) (uploadId : String) (session : SessionId) (cleanup : Cleanup)
      (waiting : List (String × SessionId)) (report : SweepReport)
  deriving DecidableEq

/-- What a call waits for. -/
def Pending.request : Pending → Request
  | store uploadId _ index data => .put (chunkPath uploadId index) data
  | merge uploadId _ _ index _ => .contains (chunkPath uploadId index)
  | cancel _ _ cleanup => cleanup.request
  | read uploadId _ index _ => .fetch (chunkPath uploadId index)
  | sweep _ _ _ cleanup _ _ => cleanup.request

/-- Where a call stands after one of its parts: it waits for the store, or it is over. -/
inductive Progress where
  | waiting (call : Pending)
  | done (outcome : Outcome Reply)

namespace Coordinator

/-- A call that is over with a failure. -/
def fail (coordinator : Coordinator) (error : ServiceError) : Coordinator × Progress :=
  (coordinator, .done (.error error))

/-! ### Storing a chunk -/

/-- A chunk is written if the session accepts one of its index. -/
def beginStore (coordinator : Coordinator) (now : Timestamp) (uploadId : String) (index : Nat)
    (data : ByteArray) : Coordinator × Progress :=
  match coordinator.find uploadId with
  | .error error => coordinator.fail error
  | .ok (number, session) =>
    match session.refusal? now with
    | some refusal => coordinator.fail refusal
    | none =>
      if session.totalChunks ≤ index then
        coordinator.fail (Refusal.outOfRange index session.totalChunks)
      else
        (coordinator, .waiting (.store uploadId number index data))

/-- The chunk that was written is recorded, unless the session came to its end in the meantime. -/
def finishStore (coordinator : Coordinator) (now : Timestamp) (uploadId : String)
    (number : SessionId) (index : Nat) (written : Outcome Unit) : Coordinator × Progress :=
  match written with
  | .error error => coordinator.fail error
  | .ok () =>
    match coordinator.session? number with
    | none => coordinator.fail (Refusal.unknown uploadId)
    | some session =>
      if session.status = .pending then
        (coordinator.modify number (·.record index now), .done (.ok .stored))
      else
        coordinator.fail (Refusal.wrongStatus uploadId session.status)

/-! ### Completing an upload -/

/-- A completed upload answers at once; a session that accepts completion has its chunks looked up, from
the first on. -/
def beginMerge (coordinator : Coordinator) (now : Timestamp) (uploadId : String) :
    Coordinator × Progress :=
  match coordinator.find uploadId with
  | .error error => coordinator.fail error
  | .ok (number, session) =>
    if session.status = .completed then
      (coordinator, .done (.ok (.merged (coordinator.reference session))))
    else
      match session.refusal? now with
      | some refusal => coordinator.fail refusal
      | none => (coordinator, .waiting (.merge uploadId number session.totalChunks 0 []))

/-- After the last look-up the upload is completed, if no chunk is missing and the session still accepts
it. -/
def finishMerge (coordinator : Coordinator) (now : Timestamp) (uploadId : String)
    (number : SessionId) (missing : List Nat) : Coordinator × Progress :=
  if missing ≠ [] then coordinator.fail (.incompleteUpload uploadId missing)
  else
    match coordinator.session? number with
    | none => coordinator.fail (Refusal.unknown uploadId)
    | some session =>
      if session.status = .completed then
        (coordinator, .done (.ok (.merged (coordinator.reference session))))
      else
        match session.refusal? now with
        | some refusal => coordinator.fail refusal
        | none =>
          (coordinator.modify number (·.complete now),
            .done (.ok (.merged (coordinator.reference (session.complete now)))))

/-- A chunk that is not there is missing, and so is one of which the store cannot tell. -/
def continueMerge (coordinator : Coordinator) (now : Timestamp) (uploadId : String)
    (number : SessionId) (total index : Nat) (missing : List Nat) (found : Outcome Bool) :
    Coordinator × Progress :=
  let missing :=
    match found with
    | .ok true => missing
    | _ => missing ++ [index]
  if index + 1 < total then
    (coordinator, .waiting (.merge uploadId number total (index + 1) missing))
  else
    coordinator.finishMerge now uploadId number missing

/-! ### Cancelling an upload -/

/-- The owner cancels a pending upload, and its blobs begin to go. A cancelled upload stays cancelled. -/
def beginCancel (coordinator : Coordinator) (now : Timestamp) (uploadId : String) (user : UInt64) :
    Coordinator × Progress :=
  match coordinator.find uploadId with
  | .error error => coordinator.fail error
  | .ok (number, session) =>
    if session.userId ≠ user then coordinator.fail (Refusal.notOwner uploadId)
    else
      match session.status with
      | .completed => coordinator.fail (Refusal.alreadyCompleted uploadId)
      | .cancelled => (coordinator, .done (.ok .cancelled))
      | .pending =>
        if session.purging then coordinator.fail (Refusal.beingCleanedUp uploadId)
        else
          (coordinator.modify number (·.cancel now),
            .waiting (.cancel uploadId number (.listing uploadId)))

/-- Ends the removal of a session's blobs. -/
def endPurge (coordinator : Coordinator) (number : SessionId) : Coordinator :=
  coordinator.modify number fun session => { session with purging := false }

/-- The cancellation stands even when blobs could not be removed; a sweep removes them later. -/
def continueCancel (coordinator : Coordinator) (uploadId : String) (number : SessionId) :
    Cleanup.Next → Coordinator × Progress
  | .inl cleanup => (coordinator, .waiting (.cancel uploadId number cleanup))
  | .inr _ => (coordinator.endPurge number, .done (.ok .cancelled))

/-! ### Reading an upload -/

/-- Only a completed upload can be read. -/
def beginRead (coordinator : Coordinator) (uploadId : String) : Coordinator × Progress :=
  match coordinator.find uploadId with
  | .error error => coordinator.fail error
  | .ok (_, session) =>
    if session.status = .completed then
      if session.totalChunks = 0 then (coordinator, .done (.ok (.assembled .empty)))
      else (coordinator, .waiting (.read uploadId session.totalChunks 0 .empty))
    else
      coordinator.fail (Refusal.wrongStatus uploadId session.status)

/-- A chunk is put after those before it; a chunk that cannot be read ends the call. -/
def continueRead (coordinator : Coordinator) (uploadId : String) (total index : Nat)
    (assembled : ByteArray) (chunk : Outcome ByteArray) : Coordinator × Progress :=
  match chunk with
  | .error error => coordinator.fail error
  | .ok data =>
    let assembled := assembled ++ data
    if index + 1 < total then
      (coordinator, .waiting (.read uploadId total (index + 1) assembled))
    else
      (coordinator, .done (.ok (.assembled assembled)))

/-! ### Sweeping -/

/-- The tracked sessions that are abandoned and not being cleaned up already. -/
def abandoned (coordinator : Coordinator) (now : Timestamp) : List (String × SessionId) :=
  coordinator.tracked.bindings.filter fun binding =>
    match coordinator.session? binding.2 with
    | some session => session.isAbandoned now && !session.purging
    | none => false

/-- Takes up the next session that is still abandoned and not being cleaned up, as of the start of the
sweep. -/
def nextSweep (started : Timestamp) (report : SweepReport) :
    List (String × SessionId) → Coordinator → Coordinator × Progress
  | [], coordinator => (coordinator, .done (.ok (.swept report)))
  | (uploadId, number) :: waiting, coordinator =>
    match coordinator.session? number with
    | none => nextSweep started report waiting coordinator
    | some session =>
      if session.isAbandoned started && !session.purging then
        (coordinator.modify number fun session => { session with purging := true },
          .waiting (.sweep started uploadId number (.listing uploadId) waiting report))
      else
        nextSweep started report waiting coordinator

/-- Forgets an identifier if it still leads to a session. -/
def untrack (coordinator : Coordinator) (uploadId : String) (number : SessionId) : Coordinator :=
  if coordinator.tracked.get? uploadId = some number then
    { coordinator with tracked := coordinator.tracked.erase uploadId }
  else
    coordinator

/-- A session whose blobs are gone is no longer tracked; one whose blobs could not all be removed stays
for the next sweep. -/
def continueSweep (coordinator : Coordinator) (started : Timestamp) (uploadId : String)
    (number : SessionId) (waiting : List (String × SessionId)) (report : SweepReport) :
    Cleanup.Next → Coordinator × Progress
  | .inl cleanup => (coordinator, .waiting (.sweep started uploadId number cleanup waiting report))
  | .inr (.ok removed) =>
    nextSweep started
      { report with
        removedSessions := report.removedSessions + 1
        removedBlobs := report.removedBlobs + removed }
      waiting (coordinator.untrack uploadId number)
  | .inr (.error _) =>
    nextSweep started { report with failed := report.failed + 1 } waiting (coordinator.endPurge number)

/-! ### The parts of a call -/

/-- The part of a call before its first request. -/
def begin (coordinator : Coordinator) (now : Timestamp) : Call → Coordinator × Progress
  | .store uploadId index data => coordinator.beginStore now uploadId index data
  | .merge uploadId => coordinator.beginMerge now uploadId
  | .cancel uploadId user => coordinator.beginCancel now uploadId user
  | .read uploadId => coordinator.beginRead uploadId
  | .sweep => nextSweep now {} (coordinator.abandoned now) coordinator

/-- The part of a call from an answer of the store to its next request. -/
def resume (coordinator : Coordinator) (now : Timestamp) :
    (call : Pending) → Outcome call.request.Answer → Coordinator × Progress
  | .store uploadId number index _, written =>
    coordinator.finishStore now uploadId number index written
  | .merge uploadId number total index missing, found =>
    coordinator.continueMerge now uploadId number total index missing found
  | .cancel uploadId number cleanup, answer =>
    coordinator.continueCancel uploadId number (cleanup.resume answer)
  | .read uploadId total index assembled, chunk =>
    coordinator.continueRead uploadId total index assembled chunk
  | .sweep started uploadId number cleanup waiting report, answer =>
    coordinator.continueSweep started uploadId number waiting report (cleanup.resume answer)

end Coordinator

end Community.Upload
