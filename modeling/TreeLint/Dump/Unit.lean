import TreeLint.Dump.Nodes
import TreeLint.Path

/-!
# Reading units

A dump is an object with the items of a unit and its resolution tables. The file, the tables of
lang items, the name, the items and the definitions are read in this order, and the first fault is
the fault of the dump.

## Main definitions

* `readUnit`: the unit that a dump writes
* `readUnitAt`: the unit that the document of a file writes, or none for an empty file
-/

namespace TreeLint.Dump

/-- The entries of a table, which is empty when the value does not count as given. -/
def readTable (role : MappingRole) (d : Document) : Except Fault (List (String × Document)) :=
  match d with
  | .obj fs => .ok fs
  | _ => if d.holds then .error (.notAMapping role d) else .ok []

/-- The table of lang items after the entries of a dump are set one by one. -/
def readLangItems (entries : List (String × Document)) : Except Fault LangItems :=
  entries.foldlM (fun table entry => do
    let item ← readMember (.str entry.1)
    pure (table.set entry.2.text item)) {}

/-- The unit that a dump writes. A dump that names no file or unit takes them from the default
file. -/
def readUnit (defaultFile : String) (d : Document) : Except Fault CompilationUnit :=
  match d with
  | .obj fs => do
    let value := fun key => (Document.field? fs key).getD .null
    let file := ((Document.field? fs "file").getD (.str defaultFile)).text
    let langItems ← readTable .langItems (value "lang_items")
    let langItems ← readLangItems langItems
    let stem := (Path.ofString defaultFile).stem
    let name := ((Document.field? fs "unit").getD (.str stem)).text
    let items ← (read file (value "items")).items
    let definitions ← readTable .definitions (value "definitions")
    pure ⟨name, items, definitions.map fun entry => (entry.1, entry.2.text), langItems⟩
  | _ => .error .notADump

/-- The unit that the document of a file writes. A file without a document holds no unit. -/
def readUnitAt (path : String) : Document → Except Fault (Option CompilationUnit)
  | .null => .ok none
  | .obj fs => (readUnit path (.obj fs)).map some
  | _ => .error (.notADumpAt path)

end TreeLint.Dump
