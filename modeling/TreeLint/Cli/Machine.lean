import TreeLint.Event
import TreeLint.Load

/-!
# Machines

What a run asks of the machine that it runs on: to read and write files, to look beneath
directories, to print and to note events. A run is the same program on every machine. One of them is
a world that is kept in memory, a file tree together with all that was done to it.

## Main definitions

* `Machine`: the operations of a machine
* `World`: a file tree with what was printed, written and noted
* `World.machine`: the machine that works on a world
-/

namespace TreeLint.Cli

/-- The operations of a machine, whose computations are those of a monad. -/
structure Machine (m : Type → Type) where
  readFile : Path → m FileContent
  survey : Path → m Survey
  /-- Creates a directory and those above it that are missing. -/
  makeDirs : Path → m (Except PathFault Unit)
  writeText : Path → String → m (Except PathFault Unit)
  print : String → m Unit
  note : Event → m Unit

/-- A file tree with what was printed, written and noted. -/
structure World where
  tree : FileTree
  output : String := ""
  /-- The locations and the texts of the files that were written, in order. -/
  written : List (List String × String) := []
  events : List Event := []

namespace World

/-- The world after a text was printed. -/
def printed (text : String) (w : World) : World :=
  { w with output := w.output ++ text }

/-- The world after events were noted. -/
def noted (events : List Event) (w : World) : World :=
  { w with events := w.events ++ events }

/-- The world after directories were created. What was created before a fault stays. -/
def makeDirs (path : Path) (w : World) : Except PathFault Unit × World :=
  match w.tree.makeDirs path.names with
  | (made, none) => (.ok (), { w with tree := made })
  | (made, some fault) => (.error fault, { w with tree := made })

/-- The world after a text was written to a file. -/
def writeText (path : Path) (text : String) (w : World) : Except PathFault Unit × World :=
  match w.tree.write path.names text with
  | .ok (after, location) =>
    (.ok (), { w with tree := after, written := w.written ++ [(location, text)] })
  | .error fault => (.error fault, w)

/-- The machine that works on a world. -/
def machine : Machine (StateM World) where
  readFile path := do return (← get).tree.readFile path
  survey root := do return (← get).tree.survey root
  makeDirs path := modifyGet (makeDirs path)
  writeText path text := modifyGet (writeText path text)
  print text := modify (printed text)
  note event := modify (noted [event])

end World

end TreeLint.Cli
