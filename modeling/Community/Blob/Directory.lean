/-
This file is the blob store that keeps blobs as files below a root directory. A blob is written to a
temporary sibling first and then renamed into place, so that nobody reads half of it; the siblings are
numbered, one number for every write that gets that far. Directories are made when they are needed, and the
directory of a blob goes with the last blob in it.
-/

import Community.Blob.FileTree
import Community.Blob.Path
import Community.Blob.Request

namespace Community.Blob

/-- Blobs as files. -/
structure Directory where
  /-- How the root reads in messages. -/
  root : String
  tree : FileTree := {}
  /-- The number of the next temporary file, which begins again after the last one of 64 bits. -/
  nextTemporary : UInt64 := 0

namespace Directory

/-- The names of a canonical path. -/
def names (path : String) : Names :=
  (splitSlashes path.toList).map String.ofList

/-- What marks the name of a temporary file. -/
def temporaryMark : String := ".tmp."

/-- Does a text occur inside another one? -/
def occursIn (part : List Char) : List Char → Bool
  | [] => part.isEmpty
  | c :: rest => part.isPrefixOf (c :: rest) || occursIn part rest

/-- A path as it reads in messages. -/
def shown (store : Directory) (path : Names) : String :=
  String.intercalate "/" (store.root :: path)

/-- The failure of an operation on a path. -/
def failure (store : Directory) (operation : String) (path : Names) (fault : Fault) : ServiceError :=
  .storage (operation ++ " " ++ store.shown path ++ ": " ++ fault.message)

/-- Opens a store at a path, making the directory and those above it. The store begins empty: it is the
directory's own tree. -/
def create (place : FileTree) (scratch : String) (path : Names) : Outcome Directory :=
  match place.makeDirectories path.length path with
  | (_, .ok ()) => .ok { root := scratch }
  | (_, .error fault) => .error (failure { root := scratch } "create root" path fault)

/-- Removes a file if there is one, whatever else may be there. -/
def discard (tree : FileTree) (path : Names) : FileTree :=
  (tree.removeFile path).toOption.getD tree

/-- Writes a blob at a path with names. -/
def put (store : Directory) (path : Names) (data : ByteArray) : Directory × Outcome Unit :=
  let parent := path.dropLast
  match store.tree.makeDirectories parent.length parent with
  | (tree, .error fault) => ({ store with tree }, .error (store.failure "create dir" parent fault))
  | (tree, .ok ()) =>
    let temporaryName :=
      path.getLastD "" ++ temporaryMark ++ toString store.nextTemporary
    let temporary := parent ++ [temporaryName]
    let store := { store with tree, nextTemporary := store.nextTemporary + 1 }
    match tree.writeFile temporary data with
    | .error fault =>
      ({ store with tree := discard tree temporary }, .error (store.failure "write" temporary fault))
    | .ok written =>
      match written.renameFile temporary path with
      | .error fault =>
        ({ store with tree := discard written temporary }, .error (store.failure "rename" path fault))
      | .ok tree => ({ store with tree }, .ok ())

/-- Removes a blob at a path with names, and its directory if that was the last blob in it. -/
def remove (store : Directory) (path : Names) : Directory × Outcome Unit :=
  match store.tree.removeFile path with
  | .error .notFound => (store, .ok ())
  | .error fault => (store, .error (store.failure "remove" path fault))
  | .ok tree =>
    let parent := path.dropLast
    let tree := if parent = [] then tree else tree.removeEmptyDirectory parent
    ({ store with tree }, .ok ())

/-- Lists the blobs directly under a directory; temporary files are not blobs. -/
def list (store : Directory) (directory : String) : Outcome (List String) :=
  match store.tree.readDirectory (names directory) with
  | .error .notFound => .ok []
  | .error fault => .error (store.failure "list" (names directory) fault)
  | .ok children =>
    let blobs := children.filterMap fun (name, node) =>
      match node with
      | .file _ =>
        if occursIn temporaryMark.toList name.toList then none else some (directory ++ "/" ++ name)
      | .directory => none
    .ok (blobs.mergeSort (· ≤ ·))

/-- Carries out a request. -/
def answer (store : Directory) (request : Request) : Directory × Outcome request.Answer :=
  match request with
  | .put path data =>
    match canonical path with
    | .ok path => store.put (names path) data
    | .error error => (store, .error error)
  | .contains path =>
    (store, (canonical path).bind fun path =>
      match store.tree.find (names path) with
      | .ok (.file _) => .ok true
      | .ok .directory => .ok false
      | .error .notFound => .ok false
      | .error fault => .error (store.failure "stat" (names path) fault))
  | .fetch path =>
    (store, (canonical path).bind fun path =>
      match store.tree.readFile (names path) with
      | .ok data => .ok data
      | .error .notFound => .error (noSuchBlob path)
      | .error fault => .error (store.failure "read" (names path) fault))
  | .remove path =>
    match canonical path with
    | .ok path => store.remove (names path)
    | .error error => (store, .error error)
  | .list directory => (store, (canonical directory).bind store.list)

end Directory

end Community.Blob
