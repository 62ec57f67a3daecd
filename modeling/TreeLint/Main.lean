import TreeLint.Cli.Run
import TreeLint.Json.Parser

/-!
# The command line program

The run of the library on the machine at hand, with the reader of JSON files. Events go to the
standard error stream, one a line. What the machine itself refuses breaks the program off.

## Main definitions

* `realMachine`: the operations of the machine at hand
* `main`: the program
-/

namespace TreeLint.Cli

/-- The text of the usage help. -/
def helpText : String :=
  "Security lints over semantic tree dumps\n\n" ++
  "options:\n" ++
  "  -h, --help             show this help and exit\n" ++
  "  -d, --dump PATH        tree dump file or directory of dumps to lint (repeatable)\n" ++
  "  --config PATH          path to the lint configuration (optional)\n" ++
  "  --format json          report format for file output\n" ++
  "  --out, --output PATH   path to write the structured report\n" ++
  "  -v, --verbose          log engine decisions at debug level\n"

/-- The text for a command line that is refused. -/
def UsageFault.message : UsageFault → String
  | .ambiguous word => "ambiguous option: " ++ word
  | .missingValue _ => "expected one argument"
  | .unwantedValue _ => "ignored explicit argument"
  | .unknownFormat value => "invalid choice: " ++ Text.quoted value ++ " (choose from 'json')"
  | .unrecognized => "unrecognized arguments"

/-- The text for a run that breaks off. -/
def Crash.message : Crash → String
  | .dump fault => fault.message
  | .reader fault => fault.message
  | .path fault => fault.message
  | .registration fault => fault.message
  | .noPath => "a path is missing"

/-- The content of the file at a path, if there is one. -/
def contentAt (path : Path) : IO FileContent := do
  let place := (← IO.currentDir) / path.render
  if !(← place.pathExists) then return .ok none
  if ← place.isDir then return .error .isADirectory
  return .ok (some (← IO.FS.readBinFile place))

/-- The entries beneath a directory, with the names that lead to them and whether they are files. -/
partial def entriesBeneath (names : List String) (path : String) :
    IO (List (List String × Bool)) := do
  let place := (← IO.currentDir) / path
  let mut found := []
  for entry in ← place.readDir do
    let here := names ++ [entry.fileName]
    let isDir ← entry.path.isDir
    found := found ++ [(here, !isDir)]
    if isDir then
      found := found ++ (← entriesBeneath here (path ++ "/" ++ entry.fileName))
  return found

/-- What a root leads to. -/
def surveyAt (root : Path) : IO Survey := do
  let place := (← IO.currentDir) / root.render
  if !(← place.pathExists) then return .nothing
  if !(← place.isDir) then return .file
  return .dir (← entriesBeneath [] root.render)

/-- The operations of the machine at hand. -/
def realMachine : Machine IO where
  readFile := contentAt
  survey := surveyAt
  makeDirs path := do
    IO.FS.createDirAll ((← IO.currentDir) / path.render)
    return .ok ()
  writeText path text := do
    IO.FS.writeFile ((← IO.currentDir) / path.render) text
    return .ok ()
  print := IO.print
  note e := IO.eprintln (e.level.name ++ " " ++ e.component.name ++ ": " ++ e.message)

/-- Ends the program as a run ends. -/
def finishWith : Ending → IO UInt32
  | .finished code => pure code.toUInt32
  | .refused fault => do IO.eprintln ("error: " ++ fault.message); pure 2
  | .helped => do IO.print helpText; pure 0
  | .aborted message => do IO.eprintln message; pure 1
  | .crashed cause => do IO.eprintln ("error: " ++ cause.message); pure 1

end TreeLint.Cli

/-- The program. -/
def main (argv : List String) : IO UInt32 := do
  let ending ← TreeLint.Cli.perform TreeLint.Cli.realMachine TreeLint.Json.reader argv
  TreeLint.Cli.finishWith ending
