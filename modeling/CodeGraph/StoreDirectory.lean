import CodeGraph.StoreSettings

/-!
# Directories of stores

A store lies in a directory of its own: its settings in one file, the documents in another, those
that are large in a directory below, and snapshots in files of their own.  Opening a store makes
what is not there yet and looks at what is.
-/

set_option autoImplicit false

namespace CodeGraph

namespace StoreDirectory

def blobs : String := "blobs"

def settings : String := "conf"

def documents : String := "db"

/-- The most bytes of a file that counts as one without settings. -/
def maxBlankLength : Nat := 8

def isSnapshot (name : String) : Bool :=
  "snap.".toList.isPrefixOf name.toList && !".in___motion".toList.isSuffixOf name.toList

def latestSnapshot? (names : List String) : Option String :=
  (names.filter isSnapshot).foldl (fun latest? name =>
    match latest? with
    | none => some name
    | some latest => some (if latest < name then name else latest)) none

end StoreDirectory

namespace FileTree

open StoreDirectory

def makeBlobs (tree : FileTree) (directory : String) : Except PathFault Unit × FileTree :=
  match tree.find (joinPath directory blobs) with
  | .ok _ => (.ok (), tree)
  | .error _ => tree.makeDirectory (joinPath directory blobs)

/-- Whether the settings in a directory are those that a new store has, or there are none yet, so
that they are written. -/
def checkSettings (tree : FileTree) (directory : String) : Except StoreFault Unit :=
  match tree.read (joinPath directory settings) with
  | .ok content =>
      if content.size ≤ maxBlankLength then .ok ()
      else do
        let stored ← StoreSettings.ofContent content
        stored.check {}
  | .error .notFound => .ok ()
  | .error fault => .error (.path fault)

def checkFromRoot (home path : String) : Except PathFault Unit :=
  if maxPathLength ≤ (absolutePath home path).utf8ByteSize then .error .nameTooLong else .ok ()

/-- Whether a store can be opened with the snapshots in a directory.  None can be read again that
was not written by a store.  They are looked for from the root on. -/
def checkSnapshots (tree : FileTree) (home directory : String) : Except StoreFault Unit := do
  (checkFromRoot home directory).mapError .path
  match latestSnapshot? (tree.entries (.ofPath directory)) with
  | none => return ()
  | some name =>
      (checkFromRoot home (joinPath directory name)).mapError .path
      match tree.read (joinPath directory name) with
      | .ok _ => throw .corrupted
      | .error fault => throw (.path fault)

/-- Opens the directory of a store, where paths are followed from a working directory.  The first
fault counts; what was made before it stays. -/
def openStore (tree : FileTree) (home directory : String) : Except StoreFault Unit × FileTree :=
  match tree.makeBlobs directory with
  | (.error fault, tree) => (.error (.path fault), tree)
  | (.ok (), tree) =>
      let checked := do
        tree.checkSettings directory
        (tree.checkWritable (joinPath directory documents)).mapError .path
        tree.checkSnapshots home directory
      (checked, tree)

end FileTree

end CodeGraph
