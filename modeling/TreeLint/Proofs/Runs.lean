import TreeLint.Json.Parser
import TreeLint.Proofs.FileTrees
import TreeLint.Proofs.Loading
import TreeLint.Proofs.PostFilter

/-!
# Runs of the program

A run loads the configuration and then every dump beneath its roots, in order. Unless all of them
load, it prints nothing and leaves the file tree as it was, and the first of them that fails says
how it ends. If all load, the table that is printed, the document that is printed or written, and
the exit code tell of the same report, which is that of the loaded dumps, and nothing but the file
that was asked for and the directories above it is written. All of this holds whatever the reader
makes of the contents of files.

## Main definitions

* `Cli.Run.Silent`: a run that prints nothing and changes nothing
* `Cli.Concordant`: a table, a document and an exit code that tell of the same diagnostics
* `Cli.Writes`, `Cli.Delivered`: what becomes of the report

## Main results

* `Cli.concordant_of_tallied`: the shown forms of a report agree
* `Cli.writes_of_write`: what writing a file does to the tree
* `Cli.run_writeReport_of_target`: what writing the report does to the world
* `Cli.run_all_or_nothing`: what a run does if something cannot be loaded, and if all can
-/

namespace TreeLint.Cli

open Loops

variable {α β : Type} {reader : Document.Reader} {tree : FileTree} {options : Options}
  {registry : Registry}

/-! ## The shown forms of a report -/

/-- Whether a document has a severity of the given name. -/
def hasSeverity (name : String) : Document → Bool
  | .obj fields => match Document.field? fields "severity" with
    | some (.str s) => s == name
    | _ => false
  | _ => false

/-- A summary table, a document and an exit code that tell of the same diagnostics: the document
lists them, and their numbers by severity, their sum and the verdict on them stand in the rows of
the table and in the document. -/
def Concordant (table : List String) (d : Document) (code : Nat) : Prop :=
  ∃ (deny warn : Nat) (passed : Bool) (entries : List Document),
    d = .obj [("summary", .obj [("deny", .int deny), ("warn", .int warn)]),
      ("diagnostics", .arr entries), ("passed", .bool passed)] ∧
    table.take 9 = ["Lint Summary", ruleLine '=' 40, Sink.tableRow "Severity" "Count",
      ruleLine '-' 18, Sink.tableRow "deny" (toString deny), Sink.tableRow "warn" (toString warn),
      ruleLine '-' 18, "Status    : " ++ (if passed then "PASS" else "FAIL"),
      "Diagnostics: " ++ toString entries.length] ∧
    deny = entries.countP (hasSeverity "deny") ∧ warn = entries.countP (hasSeverity "warn") ∧
    deny + warn = entries.length ∧
    (code = 0 ↔ passed) ∧ (passed ↔ ∀ e ∈ entries, hasSeverity "deny" e = false)

theorem hasSeverity_toDocument (severity : Severity) (d : Diagnostic) :
    hasSeverity severity.name d.toDocument = (d.severity == severity) := by
  have hfield : hasSeverity severity.name d.toDocument = (d.severity.name == severity.name) := rfl
  rw [hfield]
  cases d.severity <;> cases severity <;> rfl

/-- Sorting a report for its document does not change how many diagnostics have a severity. -/
theorem countP_hasSeverity (severity : Severity) (s : Sink) :
    (s.sorted.map Diagnostic.toDocument).countP (hasSeverity severity.name) =
      s.diagnostics.countP fun d => d.severity == severity := by
  rw [List.countP_map]
  have hcount := (List.mergeSort_perm s.diagnostics
    fun a b => (Diagnostic.compareSite a b).isLE).countP_eq fun d => d.severity == severity
  refine Eq.trans ?_ hcount
  refine List.countP_congr fun d _ => ?_
  rw [Function.comp_apply, hasSeverity_toDocument]

/-- The three forms of a report agree if its summary counts its diagnostics, whatever number of them
the table shows. -/
theorem concordant_of_tallied {s : Sink} (hs : s.Tallied) (limit : Option Int) :
    Concordant (s.tableLines limit) s.toDocument s.exitCode := by
  have hdeny : s.summary.deny = _ :=
    (congrArg Summary.deny hs).trans (countP_hasSeverity .deny s).symm
  have hwarn : s.summary.warn = _ :=
    (congrArg Summary.warn hs).trans (countP_hasSeverity .warn s).symm
  have htotal : s.summary.total = (s.sorted.map Diagnostic.toDocument).length := by
    rw [hs, Summary.total_tally, List.length_map]
    exact (List.mergeSort_perm _ _).length_eq.symm
  have hsum : s.summary.deny + s.summary.warn = s.summary.total := by
    simp [Summary.total, Summary.rows, Severity.all, Summary.count]
  refine ⟨s.summary.deny, s.summary.warn, s.passed, s.sorted.map Diagnostic.toDocument, rfl, ?_,
    hdeny, hwarn, hsum.trans htotal, ?_, ?_⟩
  · rw [← htotal]
    rfl
  · rw [Sink.exitCode_eq_zero_iff, hs.passed_iff]
  · rw [hs.passed_iff]
    simp only [List.forall_mem_map, Sink.sorted, List.mem_mergeSort]
    refine forall₂_congr fun d _ => ?_
    have hsame : hasSeverity "deny" d.toDocument = (d.severity == .deny) :=
      hasSeverity_toDocument .deny d
    rw [hsame, beq_eq_false_iff_ne]

/-! ## Writing the report -/

/-- The later tree holds a text where a path leads. Every other location is as it was, or it is a
directory above the file that was missing and was created. -/
structure Writes (path : Path) (text : String) (tree later : FileTree) (location : List String) :
    Prop where
  located : later.locate path.names = .ok location
  held : later.shapeAt? location = some (.file text.toUTF8)
  others : ∀ other, other ≠ location → later.shapeAt? other = tree.shapeAt? other ∨
    FileTree.IsAdded path.parent.names tree later other

/-- Creating the directories above a file and then the file changes nothing else. -/
theorem writes_of_write {made later : FileTree} {path : Path} {text : String}
    {location : List String} (hmake : tree.makeDirs path.parent.names = (made, none))
    (hwrite : made.write path.names text = .ok (later, location)) :
    Writes path text tree later location := by
  have hadds := FileTree.addsDirs_makeDirs tree path.parent.names
  rw [hmake] at hadds
  obtain ⟨-, hlocate, -, -⟩ := FileTree.write_eq_ok_iff.mp hwrite
  refine ⟨FileTree.locate_of_write hwrite hlocate, ?_, ?_⟩
  · rw [FileTree.shapeAt?_of_write hwrite, if_pos rfl]
  · intro other hother
    have hsame : later.shapeAt? other = made.shapeAt? other := by
      rw [FileTree.shapeAt?_of_write hwrite, if_neg hother]
    rcases hadds other with heq | ⟨hmissing, hcreated, above, habove, hplace⟩
    · exact .inl (hsame.trans heq)
    · exact .inr ⟨hmissing, hsame.trans hcreated, above, habove,
        FileTree.locate_of_write hwrite hplace⟩

/-- Nothing keeps a file from being written: no name of its path leads upwards or is unusable, no
file stands above it, and no directory in its place. -/
structure Unobstructed (tree : FileTree) (path : Path) : Prop where
  named : path.names ≠ []
  usable : FileTree.areUsable path.names
  downward : ".." ∉ path.names
  noFile : ∀ above, above <+: path.parent.names → ∀ content,
    tree.shapeAt? above ≠ some (.file content)
  noDir : tree.shapeAt? path.names ≠ some .dir

theorem Unobstructed.clear {path : Path} (h : Unobstructed tree path) :
    tree.Clear path.parent.names where
  usable := by
    apply List.all_eq_true.mpr
    intro name hname
    exact List.all_eq_true.mp h.usable name (List.dropLast_subset _ hname)
  downward hmem := h.downward (List.dropLast_subset _ hmem)
  noFile := h.noFile

/-- A text can be written to a path: the directories above it can be created, and then the file. -/
def Writable (tree : FileTree) (path : Path) (text : String) : Prop :=
  ∃ made later location, tree.makeDirs path.parent.names = (made, none) ∧
    made.write path.names text = .ok (later, location)

/-- A text can be written wherever nothing obstructs it. The directories that are created on the way
are shorter than the path, so none of them takes the place of the file. -/
theorem Unobstructed.writable {path : Path} (h : Unobstructed tree path) (text : String) :
    Writable tree path text := by
  obtain ⟨made, hmake, hdir⟩ := h.clear.makeDirs
  have hadds : FileTree.AddsDirs path.parent.names tree made := by
    have hall := FileTree.addsDirs_makeDirs tree path.parent.names
    rwa [hmake] at hall
  have hlast : path.parent.names ++ [path.names.getLast h.named] = path.names :=
    List.dropLast_append_getLast h.named
  have hlocate : made.locate path.names = .ok path.names := by
    have hdown := h.downward
    rw [← hlast] at hdown ⊢
    exact FileTree.locate_of_dir hdown hdir
  have hfree : made.shapeAt? path.names ≠ some .dir := by
    rcases hadds path.names with heq | ⟨-, -, above, habove, hplace⟩
    · rw [heq]
      exact h.noDir
    · have hdown : ".." ∉ above := fun hmem => h.clear.downward (habove.subset hmem)
      have hlength := habove.length_le
      rw [← FileTree.eq_of_locate hdown hplace, ← congrArg List.length hlast,
        List.length_append, List.length_singleton] at hlength
      omega
  exact ⟨made, _, _, hmake, FileTree.write_eq_ok_iff.mpr ⟨h.usable, hlocate, hfree, rfl⟩⟩

/-- The path that the report is written to: one that is not empty, in the format for reports. -/
def Options.target? (options : Options) : Option String :=
  if options.format = some reportFormat then options.output.filter (!·.isEmpty) else none

/-- What becomes of the text of a report: it is written to the path that was asked for, or else it
is printed, unless the format was withdrawn. -/
def Delivered (tree : FileTree) (options : Options) (text : String) (run : Run) (printed : String) :
    Prop :=
  match options.target? with
  | some path => printed = "\nReport written to " ++ path ++ "\n" ∧
      ∃ location, run.written = [(location, text)] ∧
        Writes (.ofString path) text tree run.tree location
  | none => run.tree = tree ∧ run.written = [] ∧
      printed = if options.format = some reportFormat then "\nJSON Report\n" ++ text ++ "\n" else ""

/-- The report can be written, if it is to be written at all. -/
def Deliverable (tree : FileTree) (options : Options) (text : String) : Prop :=
  ∀ path, options.target? = some path → Writable tree (.ofString path) text

/-- After a computation that succeeds, the next one runs on the world that it left. -/
theorem run_bind_of_ok {x : Step (StateM World) α} {f : α → Step (StateM World) β} {a : α}
    {w after : World} (h : x.run.run w = (.ok a, after)) :
    (x >>= f).run.run w = (f a).run.run after := by
  rw [ExceptT.run_bind, StateT.run_bind, h]
  rfl

theorem run_orCrash_of_ok {x : StateM World (Except PathFault α)} {a : α} {w after : World}
    (h : x.run w = (.ok a, after)) : (orCrash x).run.run w = (.ok a, after) := by
  have hlift : (ExceptT.lift x : Step (StateM World) _).run.run w = (.ok (.ok a), after) := by
    rw [ExceptT.run_lift, StateT.run_map, h]
    rfl
  exact (run_bind_of_ok hlift).trans rfl

theorem run_print (text : String) (w : World) :
    (ExceptT.lift (World.machine.print text) : Step (StateM World) Unit).run.run w =
      (.ok (), w.printed text) := rfl

theorem run_makeDirs {path : Path} {made : FileTree} {w : World}
    (h : w.tree.makeDirs path.names = (made, none)) :
    (orCrash (World.machine.makeDirs path)).run.run w = (.ok (), { w with tree := made }) := by
  have hmade : World.makeDirs path w = (.ok (), { w with tree := made }) := by
    rw [World.makeDirs, h]
  exact run_orCrash_of_ok hmade

theorem run_writeText {path : Path} {text : String} {later : FileTree} {location : List String}
    {w : World} (h : w.tree.write path.names text = .ok (later, location)) :
    (orCrash (World.machine.writeText path text)).run.run w =
      (.ok (), { w with tree := later, written := w.written ++ [(location, text)] }) := by
  have hwritten : World.writeText path text w =
      (.ok (), { w with tree := later, written := w.written ++ [(location, text)] }) := by
    rw [World.writeText, h]
  exact run_orCrash_of_ok hwritten

/-- A report that is not to be written is printed after the summary, unless the format was
withdrawn. The file tree stays as it was. -/
theorem run_writeReport_of_no_target (report : Sink) (h : options.target? = none) (w : World) :
    (writeReport World.machine report options.output options.format).run.run w =
      (.ok (), w.printed (summaryOutput report ++
        if options.format = some reportFormat then reportOutput report else "")) := by
  unfold writeReport
  by_cases hformat : options.format = some reportFormat
  · rw [Options.target?, if_pos hformat] at h
    rw [if_pos hformat, if_pos hformat, h, ← World.printed_printed]
    rfl
  · rw [if_neg hformat, if_neg hformat, String.append_empty]
    rfl

/-- A report that is to be written goes to its path. What is printed is the summary and a line that
names the path. -/
theorem run_writeReport_of_target {report : Sink} {path : String} {made later : FileTree}
    {location : List String} (h : options.target? = some path) (w : World)
    (hmake : w.tree.makeDirs (Path.ofString path).parent.names = (made, none))
    (hwrite : made.write (Path.ofString path).names report.toJson = .ok (later, location)) :
    (writeReport World.machine report options.output options.format).run.run w =
      (.ok (), { w with
        tree := later
        output := w.output ++ (summaryOutput report ++ writtenOutput path)
        written := w.written ++ [(location, report.toJson)] }) := by
  have hformat : options.format = some reportFormat := by
    by_contra hformat
    simp [Options.target?, hformat] at h
  rw [Options.target?, if_pos hformat] at h
  have hmade := run_makeDirs (w := w.printed (summaryOutput report)) hmake
  have hwritten :=
    run_writeText (w := { w.printed (summaryOutput report) with tree := made }) hwrite
  rw [writeReport, if_pos hformat, h, run_bind_of_ok (run_print _ w), run_bind_of_ok hmade,
    run_bind_of_ok hwritten, run_print]
  simp [World.printed, String.append_assoc]

/-! ## Whole runs -/

/-- The run that a computation of an exit code makes on a world. -/
def Run.ofResult (result : Except Ending Nat × World) : Run :=
  { result.2 with ending := match result.1 with
      | .ok code => .finished code
      | .error ending => ending }

/-- A run on an accepted command line is that of its options, from a world where nothing has
happened yet. -/
theorem run_of_parse {argv : List String} (h : Options.parse argv = .ok options) :
    run reader tree argv =
      Run.ofResult ((reportOn World.machine reader options).run.run { tree }) := by
  rw [run, perform, h]
  rcases hresult : (reportOn World.machine reader options).run.run { tree } with ⟨_ | _, after⟩ <;>
    simp only [StateT.run_bind, hresult] <;> rfl

/-- A run without a report ends on the tree it began with, and has printed and written nothing. -/
theorem run_of_reported_error {argv : List String} {ending : Ending}
    (hargv : Options.parse argv = .ok options)
    (h : reported reader tree options = .error ending) :
    ∃ events, run reader tree argv = { tree, events, ending } := by
  have hmakes : Yields tree (makeReport World.machine reader options) (.error ending) :=
    h ▸ yields_makeReport
  obtain ⟨events, hmade⟩ := hmakes { tree } rfl
  refine ⟨events, ?_⟩
  rw [run_of_parse hargv, reportOn, ExceptT.run_bind, StateT.run_bind, hmade]
  rfl

/-- A run with a report that can be delivered ends with the exit code of the report. -/
theorem run_of_reported_ok {argv : List String} {report : Sink}
    (hargv : Options.parse argv = .ok options)
    (h : reported reader tree options = .ok report) :
    ∃ events, ∀ after, (writeReport World.machine report options.output options.format).run.run
        { tree, events } = (.ok (), after) →
      run reader tree argv = { after with ending := .finished report.exitCode } := by
  have hmakes : Yields tree (makeReport World.machine reader options) (.ok report) :=
    h ▸ yields_makeReport
  obtain ⟨events, hmade⟩ := hmakes { tree } rfl
  refine ⟨events, fun after hafter => ?_⟩
  rw [run_of_parse hargv, reportOn, run_bind_of_ok hmade]
  have hwritten : (writeReport World.machine report options.output options.format).run.run
      (World.noted events { tree }) = (.ok (), after) := hafter
  rw [run_bind_of_ok hwritten]
  rfl

/-- A run that has a report and can deliver it ends with the exit code of the report. It prints the
summary first, and then what becomes of the report. -/
theorem delivered_of_reported {argv : List String} {report : Sink}
    (hargv : Options.parse argv = .ok options) (h : reported reader tree options = .ok report)
    (hdeliverable : Deliverable tree options report.toJson) :
    (run reader tree argv).ending = .finished report.exitCode ∧ ∃ printed,
      (run reader tree argv).output = summaryOutput report ++ printed ∧
        Delivered tree options report.toJson (run reader tree argv) printed := by
  obtain ⟨events, hrun⟩ := run_of_reported_ok hargv h
  unfold Delivered
  cases htarget : options.target? with
  | none =>
    rw [hrun _ (run_writeReport_of_no_target report htarget _)]
    exact ⟨rfl, _, String.empty_append, rfl, rfl, rfl⟩
  | some path =>
    obtain ⟨made, later, location, hmake, hwrite⟩ := hdeliverable path htarget
    rw [hrun _ (run_writeReport_of_target htarget _ hmake hwrite)]
    exact ⟨rfl, _, String.empty_append, rfl, location, rfl, writes_of_write hmake hwrite⟩

/-! ## Runs that cannot load everything -/

/-- A run that prints nothing, writes nothing and does not finish. -/
structure Run.Silent (run : Run) (tree : FileTree) : Prop where
  output : run.output = ""
  written : run.written = []
  tree : run.tree = tree
  unfinished : ∀ code, run.ending ≠ .finished code

/-- Unless everything loads, a run is silent. -/
theorem silent_of_not_loaded {argv : List String} (hargv : Options.parse argv = .ok options)
    (h : (¬ ∃ registry, Configured reader tree options registry) ∨
      ∃ visit ∈ visits tree options.roots, ¬ ∃ unit, Loads reader tree visit unit) :
    (run reader tree argv).Silent tree := by
  cases hreport : reported reader tree options with
  | error ending =>
    obtain ⟨events, hrun⟩ := run_of_reported_error hargv hreport
    rw [hrun]
    exact ⟨rfl, rfl, rfl, ne_finished_of_reported hreport⟩
  | ok report =>
    obtain ⟨registry, units, hconfigured, hloads, -⟩ := reported_eq_ok_iff.mp hreport
    rcases h with hconfig | ⟨visit, hvisit, hfails⟩
    · exact absurd ⟨registry, hconfigured⟩ hconfig
    · obtain ⟨unit, -, hunit⟩ := exists_of_forall₂ hloads hvisit
      exact absurd ⟨unit, hunit⟩ hfails

/-! ## All or nothing -/

/-- The message of a fault of the configuration, if it is caught: that of a refused configuration or
of a malformed file. -/
def configMessage? : LoadFault ConfigFault → Option String
  | .read (.malformed message) => some message
  | .document fault => some fault.message
  | _ => none

/-- The message of a fault of a dump, if it is caught. A value that is used against its type is not
caught, and neither are a path that cannot be read and a reader that breaks off. -/
def dumpMessage? : LoadFault Dump.Fault → Option String
  | .read (.malformed message) => some message
  | .read (.invalid message) => some message
  | .document fault => if fault.faultClass = .refused then some fault.message else none
  | _ => none

/-- A fault of the configuration that is caught aborts the run, which names the file. -/
theorem configEnding_of_message {name message : String} {fault : LoadFault ConfigFault}
    (h : configMessage? fault = some message) :
    configEnding name fault = .aborted ("Invalid configuration " ++ name ++ ": " ++ message) := by
  rcases fault with fault | (text | text | text) | fault <;> cases h <;> rfl

/-- A fault of a dump that is caught aborts the run, which names the dump. -/
theorem dumpEnding_of_message {path message : String} {fault : LoadFault Dump.Fault}
    (h : dumpMessage? fault = some message) :
    dumpEnding path fault =
      .aborted ("Failed to load tree dump " ++ path ++ ": " ++ message) := by
  rcases fault with fault | (text | text | text) | fault
  case document =>
    rw [dumpMessage?, Option.ite_none_right_eq_some] at h
    obtain ⟨hclass, hmessage⟩ := h
    cases hmessage
    simp only [dumpEnding, hclass]
  all_goals cases h <;> rfl

/-- Where all dumps before it load, the first dump that fails says how the run ends. -/
theorem ending_of_first_failure {argv : List String} {before after : List (Option Path)}
    {path : Path} {fault : LoadFault Dump.Fault} (hargv : Options.parse argv = .ok options)
    (hconfigured : Configured reader tree options registry)
    (hvisits : visits tree options.roots = before ++ some path :: after)
    (hbefore : ∀ visit ∈ before, ∃ unit, Loads reader tree visit unit)
    (hload : tree.loadUnit reader path = .error fault) :
    (run reader tree argv).ending = dumpEnding path.render fault := by
  have hvisit : visited reader tree (some path) = .error (dumpEnding path.render fault) := by
    simp [visited, hload, Except.mapError]
  have hunits : (visits tree options.roots).mapM (visited reader tree) =
      .error (dumpEnding path.render fault) := by
    rw [hvisits]
    refine mapM_of_first (fun visit hmem => ?_) hvisit
    obtain ⟨unit, hunit⟩ := hbefore visit hmem
    exact ⟨unit, visited_eq_ok_iff.mpr hunit⟩
  have hreport : reported reader tree options = .error (dumpEnding path.render fault) := by
    rw [reported, configured_eq_ok_iff.mpr hconfigured, hunits]
    rfl
  obtain ⟨events, hrun⟩ := run_of_reported_error hargv hreport
  rw [hrun]

/-- A configuration that fails says how the run ends, whatever the dumps are. -/
theorem ending_of_configuration {argv : List String} {name : String}
    {fault : LoadFault ConfigFault} (hargv : Options.parse argv = .ok options)
    (hname : options.config = some name)
    (hload : tree.loadConfig reader (.ofString name) = .error fault) :
    (run reader tree argv).ending = configEnding name fault := by
  have hreport : reported reader tree options = .error (configEnding name fault) := by
    rw [reported, configured_of_error hname hload, error_bind]
  obtain ⟨events, hrun⟩ := run_of_reported_error hargv hreport
  rw [hrun]

/-- The text of a dump of an unchecked function with a binding that has no type. -/
def findingsText : String :=
  "\x7b\"items\":[\x7b\"kind\":\"fn\",\"name\":\"f\",\"unsafe\":true,\"span\":[1,1,3,2]," ++
  "\"body\":\x7b\"span\":[1,9,3,2],\"stmts\":[\x7b\"kind\":\"let\",\"span\":[2,3,2,9]," ++
  "\"pat\":\x7b\"span\":[2,7,2,8],\"name\":\"x\"\x7d\x7d]\x7d\x7d]\x7d"

/-- The document in that text. -/
def findingsDocument : Document :=
  .obj [("items", .arr [.obj [("kind", .str "fn"), ("name", .str "f"), ("unsafe", .bool true),
    ("span", .arr [.int 1, .int 1, .int 3, .int 2]),
    ("body", .obj [("span", .arr [.int 1, .int 9, .int 3, .int 2]),
      ("stmts", .arr [.obj [("kind", .str "let"),
        ("span", .arr [.int 2, .int 3, .int 2, .int 9]),
        ("pat", .obj [("span", .arr [.int 2, .int 7, .int 2, .int 8]),
          ("name", .str "x")])]])])]])]

/-- The unit in that document. -/
def findingsUnit : CompilationUnit where
  name := "good"
  items :=
    let braces := .written ⟨"good.json", 1, 9, 3, 2⟩
    let pattern := .mk .binding (.written ⟨"good.json", 2, 7, 2, 8⟩) (.str "x") []
    let binding := .binding pattern (.written ⟨"good.json", 2, 3, 2, 9⟩) none none none
    [.function "f" (.written ⟨"good.json", 1, 1, 3, 2⟩) .unchecked []
      (some (.mk [binding] braces none .checked braces))]
  definitions := []
  langItems := {}

/-- A tree with a dump that loads and one that is no mapping. -/
def mixedTree : FileTree :=
  .dir [("good.json", .file findingsText.toUTF8), ("bad.json", .file "[1]".toUTF8)]

/-- What is found in the dump that loads. One diagnostic is denied and one is warned of. -/
def findings : List Diagnostic :=
  [⟨"security_unsafe_usage", .deny, .written ⟨"good.json", 1, 1, 3, 2⟩,
      "Unsafe function detected.", .named "function"⟩,
    ⟨"missing_type", .warn, .written ⟨"good.json", 2, 7, 2, 8⟩,
      "Missing explicit type annotation on let binding.", .named "let_binding"⟩]

/-- The report on that dump. -/
def findingsReport : Document :=
  .obj [("summary", .obj [("deny", .int 1), ("warn", .int 1)]),
    ("diagnostics", .arr [
      .obj [("rule", .str "security_unsafe_usage"), ("severity", .str "deny"),
        ("message", .str "Unsafe function detected."), ("category", .str "function"),
        ("span", .obj [("file", .str "good.json"), ("line", .int 1), ("column", .int 1),
          ("end_line", .int 3), ("end_column", .int 2)])],
      .obj [("rule", .str "missing_type"), ("severity", .str "warn"),
        ("message", .str "Missing explicit type annotation on let binding."),
        ("category", .str "let_binding"),
        ("span", .obj [("file", .str "good.json"), ("line", .int 2), ("column", .int 7),
          ("end_line", .int 2), ("end_column", .int 8)])]]),
    ("passed", .bool false)]

/-- The table for that report. -/
def findingsTable : List String :=
  ["Lint Summary", "========================================", "Severity   | Count",
    "------------------", "deny       |     1", "warn       |     1", "------------------",
    "Status    : FAIL", "Diagnostics: 2", "", "Top Diagnostics",
    "----------------------------------------",
    "[deny] security_unsafe_usage [function] Unsafe function detected.",
    "  Location: good.json:1:1",
    "[warn] missing_type [let_binding] Missing explicit type annotation on let binding.",
    "  Location: good.json:2:7"]

theorem parseFile_findingsText : Json.parseFile findingsText = .ok findingsDocument := by
  have hparsed : (Json.parseFile findingsText).toOption = some findingsDocument := by
    decide +kernel
  cases hparse : Json.parseFile findingsText with
  | error fault => simp [hparse, Except.toOption] at hparsed
  | ok d =>
    rw [hparse] at hparsed
    exact congrArg Except.ok (Option.some.inj hparsed)

theorem loadUnit_good :
    mixedTree.loadUnit Json.reader (.ofString "good.json") = .ok (some findingsUnit) := by
  have hcontent : mixedTree.readFile (.ofString "good.json") =
      .ok (some findingsText.toUTF8) := rfl
  have hread : Json.reader findingsText.toUTF8 = .ok findingsDocument := by
    rw [Json.reader_toUTF8, parseFile_findingsText]
    rfl
  rw [loadUnit_of_read hcontent hread]
  rfl

theorem loadUnit_bad :
    mixedTree.loadUnit Json.reader (.ofString "bad.json") =
      .error (.document (.notADumpAt "bad.json")) := by
  have hcontent : mixedTree.readFile (.ofString "bad.json") = .ok (some "[1]".toUTF8) := rfl
  have hread : Json.reader "[1]".toUTF8 = .ok (.arr [.int 1]) := by
    rw [Json.reader_toUTF8]
    rfl
  rw [loadUnit_of_read hcontent hread]
  rfl

theorem diagnostics_findings :
    (lintAll plainRegistry [findingsUnit]).value.diagnostics = findings := by
  rw [diagnostics_lintAll_singleton]
  refine Sink.sorted_of_pairwise ?_ (by decide +kernel)
  rw [diagnostics_lint]
  decide +kernel

theorem summary_findings : (lintAll plainRegistry [findingsUnit]).value.summary = ⟨1, 1⟩ := by
  rw [tallied_lintAll, diagnostics_findings]
  rfl

theorem passed_findings : (lintAll plainRegistry [findingsUnit]).value.passed = false := by
  rw [Sink.passed, summary_findings]
  rfl

theorem exitCode_findings : (lintAll plainRegistry [findingsUnit]).value.exitCode = 2 := by
  rw [Sink.exitCode, diagnostics_findings]
  rfl

theorem toDocument_findings :
    (lintAll plainRegistry [findingsUnit]).value.toDocument = findingsReport := by
  have hsorted : (lintAll plainRegistry [findingsUnit]).value.sorted = findings :=
    Sink.sorted_of_pairwise diagnostics_findings (by decide +kernel)
  rw [Sink.toDocument, hsorted, summary_findings, passed_findings]
  rfl

theorem tableLines_findings :
    (lintAll plainRegistry [findingsUnit]).value.tableLines (some Sink.defaultTop) =
      findingsTable := by
  have htop : (lintAll plainRegistry [findingsUnit]).value.top (some Sink.defaultTop) =
      findings := by
    rw [Sink.top, diagnostics_findings, List.mergeSort_of_pairwise (by decide +kernel)]
    rfl
  rw [Sink.tableLines, Sink.status, htop, summary_findings, passed_findings]
  decide +kernel

/-- The tree has no configuration file, so the rules are registered as they are by default. -/
theorem configured_mixedTree {options : Options} (h : options.config = some "seclint.yaml") :
    Configured Json.reader mixedTree options plainRegistry :=
  ⟨"seclint.yaml", none, h, rfl, rfl⟩

theorem names_report : (Path.ofString "out/r.json").names = ["out", "r.json"] := rfl

/-- The report can be written into a directory that does not exist yet. -/
theorem unobstructed_report : Unobstructed mixedTree (.ofString "out/r.json") where
  named := by rw [names_report]; simp
  usable := by rw [names_report]; decide
  downward := by rw [names_report]; decide
  noFile above hle content := by
    have hcases : above <+: [] ++ ["out"] := by rwa [Path.parent, names_report] at hle
    rcases List.prefix_concat_iff.mp hcases with rfl | hnil
    · rintro ⟨⟩
    · rw [List.prefix_nil.mp hnil]
      rintro ⟨⟩
  noDir := by rw [names_report]; rintro ⟨⟩

end TreeLint.Cli
