import TreeLint.Path

/-!
# File trees

A finite tree of directories and files, in which paths are followed name by name. A double dot
leads to the directory above, and every step needs a directory to start from.

## Main definitions

* `FileTree`: a directory or a file
* `FileTree.lookup?`: the entry at a location, which is a list of names without dots
* `FileTree.locate`: the location that a path leads to
* `FileTree.find?`: the entry that a path leads to
* `FileTree.makeDirs`, `FileTree.write`: creating directories and writing files
-/

namespace TreeLint

/-- A directory with named entries, or a file with its content. -/
inductive FileTree where
  | file (content : ByteArray)
  | dir (entries : List (String × FileTree))

/-- Why a path cannot be followed or written. -/
inductive PathFault where
  | notFound
  | notADirectory
  | isADirectory
  | alreadyExists
  /-- A name holds a character that no file name can hold. -/
  | unusableName
  deriving DecidableEq, Repr

/-- The wording of a path fault. -/
def PathFault.message : PathFault → String
  | .notFound => "no such file or directory"
  | .notADirectory => "not a directory"
  | .isADirectory => "is a directory"
  | .alreadyExists => "file exists"
  | .unusableName => "embedded null byte"

namespace FileTree

/-- The directory without entries. -/
def empty : FileTree := .dir []

/-- Whether the entry is a file. -/
def isFile : FileTree → Bool
  | .file _ => true
  | .dir _ => false

/-- The entry at a location. -/
def lookup? : List String → FileTree → Option FileTree
  | [], tree => some tree
  | _ :: _, .file _ => none
  | name :: names, .dir entries => (entries.lookup name).bind (lookup? names)

/-- The entries with one of them replaced, or added at the end. -/
def replace (name : String) (entry : FileTree) :
    List (String × FileTree) → List (String × FileTree)
  | [] => [(name, entry)]
  | (n, e) :: entries =>
    if n = name then (n, entry) :: entries else (n, e) :: replace name entry entries

/-- The tree with an entry put at a location. Directories on the way are created; a file on the way
gives way to one. -/
def put : List String → FileTree → FileTree → FileTree
  | [], entry, _ => entry
  | name :: names, entry, .dir entries =>
    let below := (entries.lookup name).getD empty
    .dir (replace name (put names entry below) entries)
  | name :: names, entry, .file _ => .dir [(name, put names entry empty)]

/-- The location one step further. -/
def step (tree : FileTree) (location : List String) (name : String) :
    Except PathFault (List String) :=
  match tree.lookup? location with
  | some (.dir _) => .ok (if name = ".." then location.dropLast else location ++ [name])
  | some (.file _) => .error .notADirectory
  | none => .error .notFound

/-- The location that a path leads to. Its last name need not exist. -/
def locate (tree : FileTree) (names : List String) : Except PathFault (List String) :=
  names.foldlM tree.step []

/-- The entry that a path leads to. -/
def find? (tree : FileTree) (names : List String) : Option FileTree :=
  match tree.locate names with
  | .ok location => tree.lookup? location
  | .error _ => none

/-- Whether a path leads to a directory. -/
def isDirAt (tree : FileTree) (names : List String) : Bool :=
  match tree.find? names with
  | some (.dir _) => true
  | _ => false

/-- Whether all names can be names of files. -/
def areUsable (names : List String) : Bool :=
  names.all fun name => !name.toList.contains '\x00'

/-- Creates one directory. -/
def makeDir (tree : FileTree) (names : List String) : Except PathFault FileTree := do
  if !areUsable names then throw .unusableName
  let location ← tree.locate names
  match tree.lookup? location with
  | some _ => throw .alreadyExists
  | none => pure (put location empty tree)

/-- Creates one directory, unless it exists. A fault leaves the tree as it was. -/
def makeDirIfMissing (tree : FileTree) (names : List String) : FileTree × Option PathFault :=
  match tree.makeDir names with
  | .ok made => (made, none)
  | .error fault => (tree, if tree.isDirAt names then none else some fault)

/-- Creates a directory and those above it that are missing. The names are given from the last to
the first. What was created before a fault stays. -/
def makeDirsUpward (tree : FileTree) : List String → FileTree × Option PathFault
  | [] => tree.makeDirIfMissing []
  | name :: above =>
    let names := (name :: above).reverse
    match tree.makeDir names with
    | .error .notFound =>
      match tree.makeDirsUpward above with
      | (made, none) => made.makeDirIfMissing names
      | (made, some fault) => (made, some fault)
    | _ => tree.makeDirIfMissing names

/-- Creates a directory and those above it that are missing. -/
def makeDirs (tree : FileTree) (names : List String) : FileTree × Option PathFault :=
  tree.makeDirsUpward names.reverse

/-- Writes a text to a file, and tells its location. -/
def write (tree : FileTree) (names : List String) (text : String) :
    Except PathFault (FileTree × List String) := do
  if !areUsable names then throw .unusableName
  let location ← tree.locate names
  match tree.lookup? location with
  | some (.dir _) => throw .isADirectory
  | _ => pure (put location (.file text.toUTF8) tree, location)

end FileTree

end TreeLint
