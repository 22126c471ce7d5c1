/-
This file lists what can be asked of a blob store, and the kind of answer each request has when it succeeds.
Whoever uses a store does so through these requests alone, which is what lets one kind of store stand in for
another and lets other work happen between a request and its answer.
-/

import Community.Error

namespace Community.Blob

/-- The same decision on bytes wherever the library is used. -/
instance (priority := high) decidableEqBytes : DecidableEq ByteArray := ByteArray.decEq

/-- A request to a blob store. -/
inductive Request where
  /-- Writes a blob, in place of what the path held. -/
  | put (path : String) (data : ByteArray)
  /-- Asks whether the path holds a blob. -/
  | contains (path : String)
  /-- Reads a whole blob. -/
  | fetch (path : String)
  /-- Deletes a blob; a path that holds none is no failure. -/
  | remove (path : String)
  /-- Lists the blobs directly under a directory, in ascending order. -/
  | list (directory : String)
  deriving DecidableEq

namespace Request

/-- What a request is answered with when it succeeds. -/
def Answer : Request → Type
  | put .. => Unit
  | contains _ => Bool
  | fetch _ => ByteArray
  | remove _ => Unit
  | list _ => List String

/-- The path that a request is about. -/
def path : Request → String
  | put path _ => path
  | contains path => path
  | fetch path => path
  | remove path => path
  | list directory => directory

end Request

/-- The failure of reading a blob that is not there. -/
def noSuchBlob (path : String) : ServiceError :=
  .notFound ("blob " ++ path)

end Community.Blob
