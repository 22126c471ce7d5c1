/-
This file is the blob store that keeps everything in memory: a map from canonical paths to bytes. It fails
only for a path that has no canonical form, and for reading what is not there.
-/

import Community.Blob.Path
import Community.Blob.Request
import Community.Table

namespace Community.Blob

/-- Blobs by canonical path. -/
structure Memory where
  blobs : Table String ByteArray := ∅

namespace Memory

/-- Does the path lie directly under the directory? -/
def isDirectlyUnder (directory path : String) : Bool :=
  let start := (directory ++ "/").toList
  start.isPrefixOf path.toList && !(path.toList.drop start.length).contains '/'

/-- The paths directly under a directory, in ascending order. -/
def list (store : Memory) (directory : String) : List String :=
  (store.blobs.keys.filter (isDirectlyUnder directory)).mergeSort (· ≤ ·)

/-- Carries out a request. -/
def answer (store : Memory) (request : Request) : Memory × Outcome request.Answer :=
  match request with
  | .put path data =>
    match canonical path with
    | .ok path => (⟨store.blobs.insert path data⟩, .ok ())
    | .error error => (store, .error error)
  | .contains path => (store, (canonical path).map fun path => store.blobs.contains path)
  | .fetch path =>
    (store, (canonical path).bind fun path =>
      match store.blobs.get? path with
      | some data => .ok data
      | none => .error (noSuchBlob path))
  | .remove path =>
    match canonical path with
    | .ok path => (⟨store.blobs.erase path⟩, .ok ())
    | .error error => (store, .error error)
  | .list directory => (store, (canonical directory).map store.list)

/-- The number of blobs. -/
def size (store : Memory) : Nat :=
  store.blobs.size

/-- Is there no blob? -/
def isEmpty (store : Memory) : Bool :=
  store.blobs.isEmpty

/-- The bytes of all blobs together. -/
def totalBytes (store : Memory) : Nat :=
  store.blobs.values.foldl (fun total data => total + data.size) 0

end Memory

end Community.Blob
