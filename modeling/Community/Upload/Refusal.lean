/-
This file words the refusals of the upload coordinator: why an announcement is not accepted, and why a call
on an upload does not go through.
-/

import Community.Error
import Community.Upload.Status

namespace Community.Upload.Refusal

/-- No upload is tracked under the id. -/
def unknown (uploadId : String) : ServiceError :=
  .uploadNotFound uploadId

/-- An upload consists of at least one chunk. -/
def noChunks : ServiceError :=
  .invalidRequest "total_chunks must be at least 1"

/-- The file does not fit into the announced chunks. -/
def tooLarge (fileSize totalChunks chunkSize : Nat) : ServiceError :=
  .invalidRequest ("file_size " ++ toString fileSize ++ " exceeds " ++ toString totalChunks ++
    " chunks of " ++ toString chunkSize ++ " bytes")

/-- The upload has no chunk of that index. -/
def outOfRange (index totalChunks : Nat) : ServiceError :=
  .invalidRequest ("chunk index " ++ toString index ++ " out of range 0.." ++ toString totalChunks)

/-- The upload belongs to somebody else. -/
def notOwner (uploadId : String) : ServiceError :=
  .unauthorized ("upload " ++ uploadId ++ " belongs to another user")

/-- The blobs of the upload are being removed. -/
def beingCleanedUp (uploadId : String) : ServiceError :=
  .conflict ("upload " ++ uploadId ++ " is being cleaned up")

/-- The upload was not completed in time. -/
def expired (uploadId : String) : ServiceError :=
  .invalidState ("upload " ++ uploadId ++ " has expired")

/-- The upload stands where the call is not possible. -/
def wrongStatus (uploadId : String) (status : Status) : ServiceError :=
  .invalidState ("upload " ++ uploadId ++ " is " ++ status.title)

/-- A completed upload cannot be cancelled. -/
def alreadyCompleted (uploadId : String) : ServiceError :=
  .invalidState ("upload " ++ uploadId ++ " already completed")

end Community.Upload.Refusal
