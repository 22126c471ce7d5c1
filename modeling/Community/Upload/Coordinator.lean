/-
This file tracks the uploads. Every announcement that is accepted makes a session or resumes one; the
sessions made so far are kept by number, and each identifier leads to the session that is tracked under it.
A call that was begun on a session keeps hold of it by its number, even when another session has taken its
place in the meantime.
-/

import Community.Blob.Path
import Community.Config
import Community.Table
import Community.Upload.Announcement
import Community.Upload.Session

namespace Community.Upload

/-- The number of a session, in the order in which sessions are made. -/
abbrev SessionId := Nat

/-- The sessions, and which of them are tracked. -/
structure Coordinator where
  config : UploadConfig
  sessions : Array Session := .empty
  tracked : Table String SessionId := ∅

namespace Coordinator

/-- The session with a number. -/
def session? (coordinator : Coordinator) (session : SessionId) : Option Session :=
  coordinator.sessions[session]?

/-- The session tracked under an identifier, with its number. -/
def find (coordinator : Coordinator) (uploadId : String) : Outcome (SessionId × Session) :=
  match coordinator.tracked.get? uploadId with
  | none => .error (Refusal.unknown uploadId)
  | some number =>
    match coordinator.session? number with
    | none => .error (Refusal.unknown uploadId)
    | some session => .ok (number, session)

/-- The number of tracked sessions, wherever they stand. -/
def size (coordinator : Coordinator) : Nat :=
  coordinator.tracked.size

/-- Changes the session with a number. -/
def modify (coordinator : Coordinator) (session : SessionId) (change : Session → Session) :
    Coordinator :=
  { coordinator with sessions := coordinator.sessions.modify session change }

/-- A session as an announcement begins it. -/
def freshSession (coordinator : Coordinator) (user : UInt64) (announced : Announcement)
    (now : Timestamp) : Session where
  uploadId := announced.uploadId
  userId := user
  fileName := announced.fileName
  fileSize := announced.fileSize.toNat
  chunkSize := coordinator.config.chunkSizeBytes
  totalChunks := announced.totalChunks.toNat
  uploaded := ∅
  status := .pending
  storagePath := none
  createdAt := now
  updatedAt := now
  expiresAt := now.addSaturating (effectiveLifetime coordinator.config.sessionTtl)
  purging := false

/-- Makes a session and tracks it under its identifier. -/
def track (coordinator : Coordinator) (session : Session) : Coordinator :=
  { coordinator with
    sessions := coordinator.sessions.push session
    tracked := coordinator.tracked.insert session.uploadId coordinator.sessions.size }

/-- Why an announcement is not accepted, whatever is tracked. The room of the announced chunks is only
compared with the size of the file when 64 bits hold it. -/
def announcementRefusal? (coordinator : Coordinator) (announced : Announcement) :
    Option ServiceError :=
  let total := announced.totalChunks.toNat
  let chunkSize := coordinator.config.chunkSizeBytes
  let room := chunkSize * total
  if !isValidId announced.uploadId then some (invalidId announced.uploadId)
  else if total = 0 then some Refusal.noChunks
  else if room < UInt64.size ∧ room < announced.fileSize.toNat then
    some (Refusal.tooLarge announced.fileSize.toNat total chunkSize)
  else none

/-- Starts an upload or resumes it. The caller's own live session is resumed as it is. Any other session
under the identifier gives way to a fresh one if it is the caller's or abandoned, unless its blobs are being
removed. -/
def announce (coordinator : Coordinator) (user : UInt64) (announced : Announcement)
    (now : Timestamp) : Coordinator × Outcome Receipt :=
  match coordinator.announcementRefusal? announced with
  | some refusal => (coordinator, .error refusal)
  | none =>
    let fresh := coordinator.freshSession user announced now
    let start := (coordinator.track fresh, .ok fresh.receipt)
    match coordinator.find announced.uploadId with
    | .error _ => start
    | .ok (_, existing) =>
      if existing.purging then
        (coordinator, .error (Refusal.beingCleanedUp announced.uploadId))
      else if existing.userId ≠ user ∧ !existing.isAbandoned now then
        (coordinator, .error (Refusal.notOwner announced.uploadId))
      else if existing.isLive now then (coordinator, .ok existing.receipt)
      else start

/-- How far an upload has come. -/
def report (coordinator : Coordinator) (uploadId : String) : Outcome Report :=
  (coordinator.find uploadId).map fun (_, session) => session.report

/-- Where a completed session is found. -/
def reference (coordinator : Coordinator) (session : Session) : Reference where
  storagePath := session.directory
  fileUrl := Blob.publicUrl coordinator.config.publicBaseUrl session.directory
  totalChunks := session.totalChunks

end Coordinator

end Community.Upload
