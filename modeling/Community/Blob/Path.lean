/-
This file gives every blob one name. A path is relative and its segments are joined by slashes; empty and
`.` segments say nothing and are dropped. A path that could leave the root of a store is refused: one that
begins with a slash, holds a backslash or a NUL, or has a `..` segment. So is a path of which nothing is
left.
-/

import Community.Error
import Community.Text.Quoted

namespace Community.Blob

/-- The pieces of a text between its slashes; one more than there are slashes. -/
def splitSlashes : List Char → List (List Char)
  | [] => [[]]
  | c :: rest =>
    match splitSlashes rest with
    | [] => [[c]]
    | segment :: segments =>
      if c = '/' then [] :: segment :: segments else (c :: segment) :: segments

/-- Segments with slashes between them. -/
def joinSlashes : List (List Char) → List Char
  | [] => []
  | [segment] => segment
  | segment :: rest => segment ++ '/' :: joinSlashes rest

/-- Does the segment say nothing about the place? -/
def isIdle (segment : List Char) : Bool :=
  segment = [] || segment = ['.']

/-- The segments of a path that count. -/
def segmentsOf (path : List Char) : List (List Char) :=
  (splitSlashes path).filter fun segment => !isIdle segment

/-- Is the path absolute, or does it hold a character that no path may hold? -/
def isMalformed (path : List Char) : Bool :=
  path.head? = some '/' || path.contains '\\' || path.contains '\x00'

/-- Does the path have a segment that leads upwards? -/
def escapes (path : List Char) : Bool :=
  (splitSlashes path).contains ['.', '.']

/-- The one name of the blob that a path stands for. -/
def canonical (path : String) : Outcome String :=
  let characters := path.toList
  if isMalformed characters then
    .error (.invalidRequest ("invalid blob path: " ++ Text.quote path))
  else if escapes characters then
    .error (.invalidRequest ("blob path escapes root: " ++ Text.quote path))
  else
    match segmentsOf characters with
    | [] => .error (.invalidRequest "empty blob path")
    | segments => .ok (String.ofList (joinSlashes segments))

/-- A text without the slashes at its front. -/
def dropLeadingSlashes (text : List Char) : List Char :=
  text.dropWhile (· = '/')

/-- A text without the slashes at its end. -/
def dropTrailingSlashes (text : List Char) : List Char :=
  (dropLeadingSlashes text.reverse).reverse

/-- The address at which clients find a path: exactly one slash stands between base and path. -/
def publicUrl (base path : String) : String :=
  String.ofList (dropTrailingSlashes base.toList ++ '/' :: dropLeadingSlashes path.toList)

end Community.Blob
