import TreeLint.FileTree

/-!
# Finding dumps

A root that is a file is a dump, whatever its name. Beneath a root that is a directory the dumps are
the files at any depth with one of the suffixes, in the order of their paths; paths are compared
name by name, and names by code points.

## Main definitions

* `FileTree.descendants`: all entries beneath a directory
* `comparePaths`: the order of paths
* `selectDumps`: the dumps among the entries beneath a directory
* `Survey`: what a root leads to
* `discover`: the dumps that a root leads to
* `discoverAll`: the dumps that several roots lead to
-/

namespace TreeLint

/-- The suffixes of dumps. -/
def dumpSuffixes : List String := [".yaml", ".yml", ".json"]

/-- The order of paths: name by name, a path before those beneath it. -/
def comparePaths : List String → List String → Ordering
  | [], [] => .eq
  | [], _ :: _ => .lt
  | _ :: _, [] => .gt
  | a :: as, b :: bs => (compare a b).then (comparePaths as bs)

namespace FileTree

mutual

/-- The entries beneath a directory with the names that lead to them. -/
def descendants : FileTree → List (List String × FileTree)
  | .file _ => []
  | .dir entries => descendantsOf entries

/-- The entries, each followed by those beneath it. -/
def descendantsOf : List (String × FileTree) → List (List String × FileTree)
  | [] => []
  | (name, entry) :: entries =>
    ([name], entry) :: (entry.descendants.map fun d => (name :: d.1, d.2)) ++
      descendantsOf entries

end

end FileTree

/-- Whether the last name of a path has one of the suffixes. -/
def hasSuffix (suffixes : List String) (names : List String) : Bool :=
  suffixes.contains (splitSuffix (names.getLast?.getD "")).2

/-- The dumps among entries beneath a directory, which are given by their names and whether they are
files. -/
def selectDumps (suffixes : List String) (found : List (List String × Bool)) :
    List (List String) :=
  let ordered := found.mergeSort fun a b => (comparePaths a.1 b.1).isLE
  (ordered.filter fun entry => hasSuffix suffixes entry.1 && entry.2).map Prod.fst

/-- What a root leads to. -/
inductive Survey where
  | nothing
  | file
  /-- A directory with the entries beneath it, given by their names and whether they are files. -/
  | dir (found : List (List String × Bool))

/-- The dumps in what a root leads to. -/
def Survey.dumps (suffixes : List String) (root : Path) : Survey → List Path
  | .nothing => []
  | .file => [root]
  | .dir found => (selectDumps suffixes found).map root.child

/-- What a root leads to in a file tree. -/
def FileTree.survey (tree : FileTree) (root : Path) : Survey :=
  match tree.find? root.names with
  | none => .nothing
  | some (.file _) => .file
  | some (.dir entries) => .dir ((dir entries).descendants.map fun d => (d.1, d.2.isFile))

/-- The dumps that a root leads to. -/
def discover (tree : FileTree) (suffixes : List String) (root : Path) : List Path :=
  (tree.survey root).dumps suffixes root

/-- The dumps that the roots lead to, root by root. -/
def discoverAll (tree : FileTree) (suffixes roots : List String) : List Path :=
  roots.flatMap fun root => discover tree suffixes (.ofString root)

end TreeLint
