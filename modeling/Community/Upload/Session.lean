/-
This file keeps the books of one upload: who owns it, how many chunks it has, which of them have been
recorded, where it stands and until when. A session is live while it is pending and not expired, and
abandoned when it is cancelled, or pending and expired; a completed session is neither. While its blobs are
being removed a session accepts no change.
-/

import Community.Time.Timestamp
import Community.Upload.IndexSet
import Community.Upload.Naming
import Community.Upload.Refusal

namespace Community.Upload

/-- The books of one upload. -/
structure Session where
  uploadId : String
  userId : UInt64
  fileName : String
  fileSize : Nat
  chunkSize : Nat
  totalChunks : Nat
  /-- The indices of the chunks recorded as written. -/
  uploaded : IndexSet
  status : Status
  /-- The directory of the chunks, once the upload is completed. -/
  storagePath : Option String
  createdAt : Timestamp
  updatedAt : Timestamp
  expiresAt : Timestamp
  /-- Are the blobs of the upload being removed? -/
  purging : Bool
  deriving DecidableEq, Repr

/-- What a client is told when it starts or resumes an upload: the chunks it need not send again. -/
structure Receipt where
  uploadId : String
  uploadedChunks : List Nat
  chunkSize : Nat
  deriving DecidableEq, Repr

/-- Where a completed upload is found: its chunks in one directory, to be read in order. -/
structure Reference where
  storagePath : String
  fileUrl : String
  totalChunks : Nat
  deriving DecidableEq, Repr

/-- How far an upload has come. -/
structure Report where
  uploadId : String
  totalChunks : Nat
  uploadedChunks : List Nat
  /-- The recorded share in percent. -/
  progress : Float
  status : Status

namespace Session

/-- Is the expiry reached? -/
def isExpired (session : Session) (now : Timestamp) : Bool :=
  session.expiresAt ≤ now

/-- Is the session pending and not expired? -/
def isLive (session : Session) (now : Timestamp) : Bool :=
  session.status = .pending && !session.isExpired now

/-- Is the session cancelled, or pending and expired? -/
def isAbandoned (session : Session) (now : Timestamp) : Bool :=
  match session.status with
  | .cancelled => true
  | .pending => session.isExpired now
  | .completed => false

/-- Why the session accepts no chunk and no completion, if it does not. -/
def refusal? (session : Session) (now : Timestamp) : Option ServiceError :=
  if session.purging then some (Refusal.beingCleanedUp session.uploadId)
  else
    match session.status with
    | .pending => if session.isExpired now then some (Refusal.expired session.uploadId) else none
    | status => some (Refusal.wrongStatus session.uploadId status)

/-- The recorded share in percent. -/
def progress (session : Session) : Float :=
  if session.totalChunks = 0 then 0.0
  else session.uploaded.size.toFloat * 100.0 / session.totalChunks.toFloat

/-- What the client is told. -/
def receipt (session : Session) : Receipt :=
  ⟨session.uploadId, session.uploaded.toList, session.chunkSize⟩

/-- How far the upload has come. -/
def report (session : Session) : Report :=
  ⟨session.uploadId, session.totalChunks, session.uploaded.toList, session.progress, session.status⟩

/-- The directory of the chunks. -/
def directory (session : Session) : String :=
  session.storagePath.getD (Upload.storagePath session.uploadId)

/-- Records a chunk. -/
def record (session : Session) (index : Nat) (now : Timestamp) : Session :=
  { session with uploaded := session.uploaded.insert index, updatedAt := now }

/-- Completes the upload; every chunk counts as recorded. -/
def complete (session : Session) (now : Timestamp) : Session :=
  { session with
    status := .completed
    storagePath := some (Upload.storagePath session.uploadId)
    uploaded := .below session.totalChunks
    updatedAt := now }

/-- Cancels the upload and begins the removal of its blobs. -/
def cancel (session : Session) (now : Timestamp) : Session :=
  { session with status := .cancelled, updatedAt := now, purging := true }

end Session

/-- The longest lifetime that can be added to a time, in nanoseconds: a signed number of 64 bits counts
its milliseconds. -/
def longestLifetime : Nat := (Nat.pow 2 63 - 1) * Duration.nanosPerMilli

/-- The lifetime of a session: the configured one, or a day if that is too long to be added. -/
def effectiveLifetime (configured : Duration) : Duration :=
  if configured.nanos ≤ longestLifetime then configured else .ofSeconds Timestamp.secondsPerDay

end Community.Upload
