/-
This file joins the two kinds of blob store: in memory, or in files below a directory. Both know the address
at which clients find what they hold.
-/

import Community.Blob.Directory
import Community.Blob.Memory

namespace Community.Blob

/-- Where blobs are kept. -/
inductive Backing where
  | memory (store : Memory)
  | directory (store : Directory)

/-- A blob store with the base of its public addresses. -/
structure Store where
  backing : Backing := .memory {}
  publicBaseUrl : String

namespace Store

/-- Carries out a request. -/
def answer (store : Store) (request : Request) : Store × Outcome request.Answer :=
  match store.backing with
  | .memory memory =>
    let (memory, outcome) := memory.answer request
    ({ store with backing := .memory memory }, outcome)
  | .directory directory =>
    let (directory, outcome) := directory.answer request
    ({ store with backing := .directory directory }, outcome)

/-- The address at which clients find a path. -/
def publicUrl (store : Store) (path : String) : String :=
  Blob.publicUrl store.publicBaseUrl path

end Store

end Community.Blob
