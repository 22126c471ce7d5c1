/-
This file names the ways in which a call of the service can fail. A failure has a kind and says what it is
about; its message is the kind's phrase followed by that text. Caches never fail. A caller may try again,
without changing the request, after the kinds that `isRetryable` accepts.
-/

namespace Community

/-- Why a call of the service failed. -/
inductive ServiceError where
  /-- The entity asked for does not exist. -/
  | notFound (what : String)
  /-- The source of articles failed. -/
  | repository (reason : String)
  /-- The blob store failed. -/
  | storage (reason : String)
  /-- No upload is tracked under the id. -/
  | uploadNotFound (uploadId : String)
  /-- The caller does not own what it acts on. -/
  | unauthorized (reason : String)
  /-- An upload was to be completed while chunks of it were missing. -/
  | incompleteUpload (uploadId : String) (missing : List Nat)
  /-- The state of the upload does not allow the call. -/
  | invalidState (reason : String)
  /-- The upload is busy with the removal of its blobs. -/
  | conflict (reason : String)
  /-- The request itself is malformed. -/
  | invalidRequest (reason : String)
  /-- The caller's deadline passed before the operation finished. -/
  | timeout (operation : String)
  /-- The caller gave the operation up. -/
  | cancelled (operation : String)
  /-- A payload could not be encoded or decoded. -/
  | serialization
  deriving DecidableEq, Repr

namespace ServiceError

/-- May the same call succeed later without any change to the request? -/
def isRetryable : ServiceError → Bool
  | incompleteUpload .. => true
  | conflict _ => true
  | timeout _ => true
  | storage _ => true
  | _ => false

/-- Numbers between brackets, with commas between them. -/
def writeNumbers (numbers : List Nat) : String :=
  "[" ++ String.intercalate ", " (numbers.map toString) ++ "]"

/-- The message of a failure; the failure of a codec has none that callers rely on. -/
def message? : ServiceError → Option String
  | notFound what => some ("Not found: " ++ what)
  | repository reason => some ("Repository error: " ++ reason)
  | storage reason => some ("Storage error: " ++ reason)
  | uploadNotFound uploadId => some ("Upload not found: " ++ uploadId)
  | unauthorized reason => some ("Unauthorized: " ++ reason)
  | incompleteUpload uploadId missing =>
    some ("Upload " ++ uploadId ++ " incomplete, missing chunks " ++ writeNumbers missing)
  | invalidState reason => some ("Invalid state: " ++ reason)
  | conflict reason => some ("Conflict: " ++ reason)
  | invalidRequest reason => some ("Invalid request: " ++ reason)
  | timeout operation => some ("Timed out: " ++ operation)
  | cancelled operation => some ("Cancelled: " ++ operation)
  | serialization => none

end ServiceError

/-- The outcome of a call that can fail. -/
abbrev Outcome (α : Type) := Except ServiceError α

end Community
