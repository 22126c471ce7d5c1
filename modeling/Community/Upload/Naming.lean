/-
This file names the places of an upload in the blob store. The chunks of an upload lie in a directory of
their own, numbered from zero. The identifier is a segment of their paths, which is why only a small set of
characters is accepted in it.
-/

import Community.Error
import Community.Text.Quoted

namespace Community.Upload

/-- The most bytes of an identifier. -/
def longestId : Nat := 128

/-- The directory of an upload's chunks. -/
def storagePath (uploadId : String) : String :=
  "chunks/" ++ uploadId

/-- The path of one chunk. -/
def chunkPath (uploadId : String) (index : Nat) : String :=
  "chunks/" ++ uploadId ++ "/chunk_" ++ toString index

/-- May the character stand in an identifier? -/
def isIdChar (c : Char) : Bool :=
  c.isAlphanum || c = '-' || c = '_' || c = '.'

/-- Can the text identify an upload? -/
def isValidId (uploadId : String) : Bool :=
  uploadId ≠ "" && uploadId.utf8ByteSize ≤ longestId && uploadId ≠ "." && uploadId ≠ ".." &&
    uploadId.toList.all isIdChar

/-- The failure of an identifier that is not accepted. -/
def invalidId (uploadId : String) : ServiceError :=
  .invalidRequest ("invalid upload id: " ++ Text.quote uploadId)

/-- Accepts an identifier or says that it is invalid. -/
def validateId (uploadId : String) : Outcome Unit :=
  if isValidId uploadId then .ok () else .error (invalidId uploadId)

end Community.Upload
