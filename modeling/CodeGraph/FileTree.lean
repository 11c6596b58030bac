import CodeGraph.Text.Split

/-!
# A tree of files

The files and directories around a working directory, and what comes of reading a path and of making
the directories of one.  A path is followed part by part: every part but the last has to name a
directory.
-/

set_option autoImplicit false

namespace CodeGraph

inductive PathFault where
  | notFound
  | nulByte
  | isDirectory
  | notDirectory
  | fileExists
  | nameTooLong
  deriving DecidableEq

def PathFault.message : PathFault → String
  | notFound => "No such file or directory (os error 2)"
  | nulByte => "file name contained an unexpected NUL byte"
  | isDirectory => "Is a directory (os error 21)"
  | notDirectory => "Not a directory (os error 20)"
  | fileExists => "File exists (os error 17)"
  | nameTooLong => "File name too long (os error 36)"

def pathParts (path : String) : List String :=
  (Text.pieces '/' path.toList).map String.ofList

def joinPath (directory entry : String) : String :=
  if directory.toList.getLast? = some '/' then directory ++ entry else directory ++ "/" ++ entry

def isAbsolutePath (path : String) : Bool :=
  path.toList.head? = some '/'

def absolutePath (home path : String) : String :=
  if isAbsolutePath path then path else joinPath home path

/-- Where something is, as the parts of a path without detours from the working directory.  Two
points stand only in front, where they lead out of the working directory. -/
abbrev Place := List String

namespace Place

/-- The root, which no part of a path can name. -/
def root : Place := ["/"]

def start (path : String) : Place :=
  if isAbsolutePath path then root else []

def step (place : Place) (part : String) : Place :=
  if part = "" ∨ part = "." then place
  else if part = ".." then
    if place = root then root
    else if place = [] ∨ place.getLast? = some ".." then place ++ [part]
    else place.dropLast
  else place ++ [part]

def ofPath (path : String) : Place :=
  (pathParts path).foldl step (start path)

end Place

/-- A path without detours, so that two paths to one place are the same text. -/
def settledPath (path : String) : String :=
  "/".intercalate (Place.ofPath path)

def maxPartLength : Nat := 255

/-- The number of bytes from which on a path is too long as a whole. -/
def maxPathLength : Nat := 4096

/-- Files with their contents, and directories, which need not hold a file. -/
structure FileTree where
  files : List (Place × ByteArray) := []
  directories : List Place := []

inductive Target where
  | file (content : ByteArray)
  | directory

namespace FileTree

/-- Whether a directory is part of the tree.  The root, the working directory and those above it
always are. -/
def hasDirectory (tree : FileTree) (place : Place) : Bool :=
  place = .root || place.all (· = "..")
    || tree.directories.any (fun directory => place.isPrefixOf directory)
    || tree.files.any fun file => place.isPrefixOf file.1 && place.length < file.1.length

def targetAt? (tree : FileTree) (place : Place) : Option Target :=
  match tree.files.lookup place with
  | some content => some (.file content)
  | none => if tree.hasDirectory place then some .directory else none

def follow (tree : FileTree) : Place → List String → Except PathFault Target
  | _, [] => .ok .directory
  | place, part :: later =>
      if maxPartLength < part.utf8ByteSize then
        .error .nameTooLong
      else
        match tree.targetAt? (place.step part) with
        | some .directory => tree.follow (place.step part) later
        | some (.file content) =>
            if later.isEmpty then .ok (.file content) else .error .notDirectory
        | none => .error .notFound

def checkPath (path : String) : Except PathFault Unit :=
  if path.toList.contains '\x00' then .error .nulByte
  else if path.isEmpty then .error .notFound
  else if maxPathLength ≤ path.utf8ByteSize then .error .nameTooLong
  else .ok ()

def find (tree : FileTree) (path : String) : Except PathFault Target := do
  checkPath path
  tree.follow (.start path) (pathParts path)

def read (tree : FileTree) (path : String) : Except PathFault ByteArray :=
  match tree.find path with
  | .ok (.file content) => .ok content
  | .ok .directory => .error .isDirectory
  | .error fault => .error fault

def checkWritable (tree : FileTree) (path : String) : Except PathFault Unit :=
  match tree.read path with
  | .ok _ => .ok ()
  | .error .notFound => .ok ()
  | .error fault => .error fault

/-- The names of what is in the directory at a place.  A name may come again. -/
def entries (tree : FileTree) (place : Place) : List String :=
  (tree.directories ++ tree.files.map Prod.fst).filterMap fun inner =>
    if place.isPrefixOf inner then inner[place.length]? else none

/-- Makes the directories that the parts of a path lack, one after the other.  What was made before
a fault stays, and a file in the way is another fault once something was made. -/
def extend : FileTree → Bool → Place → List String → Except PathFault Unit × FileTree
  | tree, _, _, [] => (.ok (), tree)
  | tree, hasMade, place, part :: later =>
      if maxPartLength < part.utf8ByteSize then
        (.error .nameTooLong, tree)
      else
        match tree.targetAt? (place.step part) with
        | some .directory => tree.extend hasMade (place.step part) later
        | some (.file _) => (.error (if hasMade then .fileExists else .notDirectory), tree)
        | none =>
            extend { tree with directories := place.step part :: tree.directories } true
              (place.step part) later

def makeDirectory (tree : FileTree) (path : String) : Except PathFault Unit × FileTree :=
  match checkPath path with
  | .error fault => (.error fault, tree)
  | .ok () => tree.extend false (.start path) (pathParts path)

def write (tree : FileTree) (path : String) (content : ByteArray) : FileTree :=
  { tree with files := (.ofPath path, content) :: tree.files }

end FileTree

end CodeGraph
