/-
This file is a tree of files and directories, with the operations of a POSIX file system that a blob store
needs and the faults they end in. A path is the list of its names below the root, which is always there. A
path that is too long as a whole is refused before anything is looked up. Any other path is walked name by
name: a name that is too long stops the walk before it is looked up, a name that is missing stops it, and so
does a file that is not the last of the path.
-/

import Community.Table

namespace Community.Blob

/-- What a file system operation can end in. -/
inductive Fault where
  | notFound
  | alreadyExists
  | notADirectory
  | isADirectory
  | nameTooLong
  deriving DecidableEq, Repr

/-- How the operating system words a fault. -/
def Fault.message : Fault → String
  | notFound => "No such file or directory (os error 2)"
  | alreadyExists => "File exists (os error 17)"
  | notADirectory => "Not a directory (os error 20)"
  | isADirectory => "Is a directory (os error 21)"
  | nameTooLong => "File name too long (os error 36)"

/-- What a path can lead to. -/
inductive Node where
  | file (data : ByteArray)
  | directory

/-- Is it a directory? -/
def Node.isDirectory : Node → Bool
  | file _ => false
  | directory => true

/-- The names of a path, outermost first. -/
abbrev Names := List String

/-- The files and directories below the root, by path. -/
structure FileTree where
  nodes : Table Names Node := ∅

namespace FileTree

/-- The most bytes of a name. -/
def longestName : Nat := 255

/-- The most bytes of a path below the root. The operating system takes 4095 bytes, those of the path that
leads to the root included. -/
def longestPath : Nat := 4064

/-- The bytes of a path, one for the slash before each name but the first. -/
def pathSize (path : Names) : Nat :=
  path.foldl (fun size name => size + name.utf8ByteSize) (path.length - 1)

/-- Walks from a directory that is there down the names that are left. -/
def walk (tree : FileTree) : Names → Names → Except Fault Node
  | _, [] => .ok .directory
  | base, name :: rest =>
    if longestName < name.utf8ByteSize then .error .nameTooLong
    else
      match tree.nodes.get? (base ++ [name]) with
      | none => .error .notFound
      | some .directory => tree.walk (base ++ [name]) rest
      | some (.file data) => if rest = [] then .ok (.file data) else .error .notADirectory

/-- What a path leads to. -/
def find (tree : FileTree) (path : Names) : Except Fault Node :=
  if longestPath < pathSize path then .error .nameTooLong else tree.walk [] path

/-- Does the path lead to a directory? -/
def isDirectory (tree : FileTree) (path : Names) : Bool :=
  match tree.find path with
  | .ok .directory => true
  | _ => false

/-- The names and nodes directly under a directory. -/
def children (tree : FileTree) (path : Names) : List (String × Node) :=
  tree.nodes.bindings.filterMap fun (place, node) =>
    match place.getLast? with
    | some name => if place.dropLast = path then some (name, node) else none
    | none => none

/-- Makes a directory whose parent is there. -/
def makeDirectory (tree : FileTree) (path : Names) : Except Fault FileTree :=
  match tree.find path with
  | .ok _ => .error .alreadyExists
  | .error .notFound =>
    if tree.isDirectory path.dropLast then .ok ⟨tree.nodes.insert path .directory⟩
    else .error .notFound
  | .error fault => .error fault

/-- Makes a directory and those above it that are missing, the outermost first; `count` bounds how many
names up the work may begin. What was made stays, even when a later step fails. -/
def makeDirectories : Nat → FileTree → Names → FileTree × Except Fault Unit
  | count, tree, path =>
    match tree.makeDirectory path with
    | .ok tree => (tree, .ok ())
    | .error .notFound =>
      match count with
      | 0 => (tree, .error .notFound)
      | count + 1 =>
        match makeDirectories count tree path.dropLast with
        | (tree, .error fault) => (tree, .error fault)
        | (tree, .ok ()) =>
          match tree.makeDirectory path with
          | .ok tree => (tree, .ok ())
          | .error fault => (tree, .error fault)
    | .error fault => (tree, if tree.isDirectory path then .ok () else .error fault)

/-- Writes a file, in place of the one that was there. -/
def writeFile (tree : FileTree) (path : Names) (data : ByteArray) : Except Fault FileTree :=
  match tree.find path with
  | .ok .directory => .error .isADirectory
  | .ok (.file _) => .ok ⟨tree.nodes.insert path (.file data)⟩
  | .error .notFound =>
    if tree.isDirectory path.dropLast then .ok ⟨tree.nodes.insert path (.file data)⟩
    else .error .notFound
  | .error fault => .error fault

/-- Reads a file. -/
def readFile (tree : FileTree) (path : Names) : Except Fault ByteArray :=
  match tree.find path with
  | .ok (.file data) => .ok data
  | .ok .directory => .error .isADirectory
  | .error fault => .error fault

/-- Removes a file. -/
def removeFile (tree : FileTree) (path : Names) : Except Fault FileTree :=
  match tree.find path with
  | .ok (.file _) => .ok ⟨tree.nodes.erase path⟩
  | .ok .directory => .error .isADirectory
  | .error fault => .error fault

/-- Removes a directory if nothing is in it; otherwise nothing happens. -/
def removeEmptyDirectory (tree : FileTree) (path : Names) : FileTree :=
  if tree.isDirectory path ∧ (tree.children path).isEmpty then ⟨tree.nodes.erase path⟩ else tree

/-- Moves a file to another path, in place of the file that was there. -/
def renameFile (tree : FileTree) (source target : Names) : Except Fault FileTree :=
  match tree.readFile source with
  | .error fault => .error fault
  | .ok data =>
    match tree.writeFile target data with
    | .error fault => .error fault
    | .ok moved => moved.removeFile source

/-- The names of a directory's entries, with what they lead to. -/
def readDirectory (tree : FileTree) (path : Names) : Except Fault (List (String × Node)) :=
  match tree.find path with
  | .ok .directory => .ok (tree.children path)
  | .ok (.file _) => .error .notADirectory
  | .error fault => .error fault

/-- Everything below the root, in ascending order; directories end in a slash. -/
def entries (tree : FileTree) : List String :=
  let names := tree.nodes.bindings.map fun (path, node) =>
    String.intercalate "/" path ++ if node.isDirectory then "/" else ""
  names.mergeSort (· ≤ ·)

end FileTree

end Community.Blob
