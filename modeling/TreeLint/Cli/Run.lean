import TreeLint.Cli.Machine
import TreeLint.Cli.Options
import TreeLint.Lint
import TreeLint.Report

/-!
# Runs of the program

A run reads the configuration, lints all dumps beneath the roots in order, and only then prints the
summary and writes the report. A configuration or a dump that is refused ends the run before
anything is printed or written. The program is written for any machine and any reader of documents.

## Main definitions

* `Ending`: how a run ends
* `readRegistry`: the registry that the configuration file asks for
* `lintFile`, `lintRoots`: linting dumps into a report
* `writeReport`: printing the summary and writing the report
* `perform`: the whole program on a machine
* `run`: the run on a file tree
-/

namespace TreeLint.Cli

/-- Why a run breaks off without a message of its own. -/
inductive Crash where
  /-- A dump uses a value in a way that its type does not allow. -/
  | dump (fault : Dump.Fault)
  /-- A file cannot be read as a document, for a reason that is not caught. -/
  | reader (fault : ReadFault)
  /-- A path cannot be read or written. -/
  | path (fault : PathFault)
  /-- A rule cannot be registered. -/
  | registration (fault : ConfigFault)
  /-- The name of the configuration or of a root was withdrawn. -/
  | noPath

/-- How a run ends. -/
inductive Ending where
  /-- The run is finished with an exit code. -/
  | finished (code : Nat)
  /-- The command line is refused. -/
  | refused (fault : UsageFault)
  /-- The command line asks for help only. -/
  | helped
  /-- The configuration or a dump is refused with a message. -/
  | aborted (message : String)
  | crashed (cause : Crash)

/-- A computation of a machine that may end the run. -/
abbrev Step (m : Type → Type) (α : Type) := ExceptT Ending m α

/-- The events that a run shows: all of them when it is verbose, otherwise warnings. -/
def Options.shown (options : Options) (events : List Event) : List Event :=
  if options.verbose then events else events.filter (·.level.isWarning)

/-- The roots of a run. -/
def Options.roots (options : Options) : List (Option String) :=
  if options.dumps.isEmpty then [some "dumps"] else options.dumps

/-- The ending for a configuration that cannot be loaded. Only a refused configuration and a
malformed file have a message. -/
def configEnding (path : String) : LoadFault ConfigFault → Ending
  | .path fault => .crashed (.path fault)
  | .read (.malformed message) => .aborted ("Invalid configuration " ++ path ++ ": " ++ message)
  | .read fault => .crashed (.reader fault)
  | .document fault => .aborted ("Invalid configuration " ++ path ++ ": " ++ fault.message)

/-- The ending for a dump that cannot be loaded. A refused dump has a message, and so has a file
that is malformed or stands for no value. -/
def dumpEnding (path : String) : LoadFault Dump.Fault → Ending
  | .path fault => .crashed (.path fault)
  | .read (.broken message) => .crashed (.reader (.broken message))
  | .read fault => .aborted ("Failed to load tree dump " ++ path ++ ": " ++ fault.message)
  | .document fault => match fault.faultClass with
    | .refused => .aborted ("Failed to load tree dump " ++ path ++ ": " ++ fault.message)
    | _ => .crashed (.dump fault)

/-- What is printed before the report is written. -/
def summaryOutput (report : Sink) : String :=
  report.table ++ "\n"

/-- What is printed when the report is not written to a file. -/
def reportOutput (report : Sink) : String :=
  "\nJSON Report\n" ++ report.toJson ++ "\n"

/-- What is printed when the report is written to a file. -/
def writtenOutput (path : String) : String :=
  "\nReport written to " ++ path ++ "\n"

section Program

variable {m : Type → Type} [Monad m] {α : Type}

/-- A name that has to be there. -/
def named : Option String → Step m String
  | some name => pure name
  | none => throw (.crashed .noPath)

/-- A computation on paths that breaks the run off when it fails. -/
def orCrash (x : m (Except PathFault α)) : Step m α := do
  match ← ExceptT.lift x with
  | .ok a => pure a
  | .error fault => throw (.crashed (.path fault))

variable (machine : Machine m) (reader : Document.Reader) (options : Options)

/-- The value of a computation that notes events, of which the run shows some. -/
def noting (x : Logged α) : Step m α := do
  ExceptT.lift ((options.shown x.events).forM machine.note)
  pure x.value

/-! ## Reading the configuration -/

/-- The registry that a loaded configuration asks for. Without one nothing is asked for. -/
def registryFor (config : Option (Logged Config)) : Step m Registry := do
  match ← noting machine options (config.getD (pure {}) >>= Registry.ofConfig) with
  | .ok registry => pure registry
  | .error fault => throw (.crashed (.registration fault))

/-- The registry that the configuration file asks for. -/
def readRegistry : Step m Registry := do
  let path ← named options.config
  let content ← ExceptT.lift (machine.readFile (.ofString path))
  match configOfContent reader content with
  | .ok config => registryFor machine options config
  | .error fault => throw (configEnding path fault)

/-! ## Linting dumps -/

/-- Lints what was loaded from a path into a report. A file without a document changes nothing. -/
def lintLoaded (registry : Registry) (report : Sink) (path : String) :
    Except (LoadFault Dump.Fault) (Option CompilationUnit) → Step m Sink
  | .error fault => throw (dumpEnding path fault)
  | .ok none => pure report
  | .ok (some unit) => noting machine options do
    Logged.note (.lintingFile path)
    lintOnto registry report unit

/-- Lints the dump at a path into a report. -/
def lintFile (registry : Registry) (report : Sink) (path : Path) : Step m Sink := do
  let content ← ExceptT.lift (machine.readFile path)
  lintLoaded machine options registry report path.render (unitOfContent reader path content)

/-- Lints the dumps beneath a root. -/
def lintRoot (registry : Registry) (report : Sink) (root : Option String) : Step m Sink := do
  let path := Path.ofString (← named root)
  let found ← ExceptT.lift (machine.survey path)
  (found.dumps dumpSuffixes path).foldlM (lintFile machine reader options registry) report

/-- Lints the dumps beneath all roots in order. -/
def lintRoots (registry : Registry) : Step m Sink :=
  options.roots.foldlM (lintRoot machine reader options registry) .empty

/-- The report of a run. -/
def makeReport : Step m Sink := do
  let registry ← readRegistry machine reader options
  lintRoots machine reader options registry

/-! ## Writing the report -/

/-- Prints the summary and then, in the format for reports, writes the report to a file, or prints
it when no file is named. In any other format, and in none, there is only the summary. -/
def writeReport (report : Sink) (output format : Option String) : Step m Unit := do
  ExceptT.lift (machine.print (summaryOutput report))
  if format = some reportFormat then
    match output.filter (!·.isEmpty) with
    | none => ExceptT.lift (machine.print (reportOutput report))
    | some path =>
      orCrash (machine.makeDirs (Path.ofString path).parent)
      orCrash (machine.writeText (.ofString path) report.toJson)
      ExceptT.lift (machine.print (writtenOutput path))

/-! ## Whole runs -/

/-- Makes the report and writes it, and gives the exit code. -/
def reportOn : Step m Nat := do
  let report ← makeReport machine reader options
  writeReport machine report options.output options.format
  pure report.exitCode

/-- Runs the program with a command line. -/
def perform (argv : List String) : m Ending :=
  match Options.parse argv with
  | .ok options => do
    match ← (reportOn machine reader options).run with
    | .ok code => pure (.finished code)
    | .error ending => pure ending
  | .error .help => pure .helped
  | .error (.usage fault) => pure (.refused fault)

end Program

/-- How a run ends, and what it leaves. -/
structure Run extends World where
  ending : Ending

/-- The run on a file tree with a command line. -/
def run (reader : Document.Reader) (tree : FileTree) (argv : List String) : Run :=
  let (ending, world) := (perform World.machine reader argv).run { tree }
  { world with ending }

end TreeLint.Cli
