import TreeLint.Config
import TreeLint.Discovery
import TreeLint.Dump.Unit

/-!
# Loading files

Dumps and configurations are loaded from files, whose contents a reader turns into documents. A path
that leads nowhere and a file without a document load nothing.

## Main definitions

* `LoadFault`: why a file cannot be loaded
* `unitOfContent`, `configOfContent`: what is loaded from the content of a file
* `FileTree.loadUnit`, `FileTree.loadConfig`: loading a dump or a configuration from a file tree
-/

namespace TreeLint

/-- Why a file cannot be loaded. The document in it is refused with a fault of a type of its own. -/
inductive LoadFault (φ : Type) where
  | path (fault : PathFault)
  | read (fault : ReadFault)
  | document (fault : φ)

/-- The content of the file at a path, if the path leads anywhere. -/
abbrev FileContent := Except PathFault (Option ByteArray)

/-- The unit in the file at a path. -/
def unitOfContent (reader : Document.Reader) (path : Path) (content : FileContent) :
    Except (LoadFault Dump.Fault) (Option CompilationUnit) := do
  match ← content.mapError .path with
  | none => pure none
  | some bytes => do
    let d ← (reader bytes).mapError .read
    (Dump.readUnitAt path.render d).mapError .document

/-- The configuration in a file. -/
def configOfContent (reader : Document.Reader) (content : FileContent) :
    Except (LoadFault ConfigFault) (Option (Logged Config)) := do
  match ← content.mapError .path with
  | none => pure none
  | some bytes => do
    match ← (reader bytes).mapError .read with
    | .null => pure none
    | d => ((Config.ofDocument d).map some).mapError .document

namespace FileTree

/-- The content of the file that a path leads to, if it leads anywhere. -/
def readFile (tree : FileTree) (path : Path) : FileContent :=
  match tree.find? path.names with
  | none => .ok none
  | some (.file content) => .ok (some content)
  | some (.dir _) => .error .isADirectory

/-- Loads the dump at a path. -/
def loadUnit (reader : Document.Reader) (tree : FileTree) (path : Path) :
    Except (LoadFault Dump.Fault) (Option CompilationUnit) :=
  unitOfContent reader path (tree.readFile path)

/-- Loads the configuration at a path. -/
def loadConfig (reader : Document.Reader) (tree : FileTree) (path : Path) :
    Except (LoadFault ConfigFault) (Option (Logged Config)) :=
  configOfContent reader (tree.readFile path)

end FileTree

end TreeLint
