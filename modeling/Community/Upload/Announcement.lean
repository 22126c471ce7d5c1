/-
This file holds what a client announces when it starts or resumes an upload: an identifier of its own
choice, a file name, the size of the file and the number of chunks it will be cut into.
-/

import Community.Json.Record

namespace Community.Upload

open Community.Json

/-- The announcement of an upload. -/
structure Announcement where
  uploadId : String
  fileName : String
  fileSize : UInt64
  totalChunks : UInt32
  deriving DecidableEq, Repr

/-- The fields of an announcement. -/
def Announcement.fieldNames : List String :=
  ["upload_id", "file_name", "file_size", "total_chunks"]

/-- Reads an announcement; every field must be given. -/
def Announcement.ofDocument? (document : Document) : Option Announcement := do
  let record ← Record.ofDocument? Announcement.fieldNames document
  return {
    uploadId := ← record.required "upload_id" Document.text?
    fileName := ← record.required "file_name" Document.text?
    fileSize := ← record.required "file_size" word64?
    totalChunks := ← record.required "total_chunks" word32? }

end Community.Upload
