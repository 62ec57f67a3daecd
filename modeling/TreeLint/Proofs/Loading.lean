import TreeLint.Cli.Run
import TreeLint.Proofs.Loops
import TreeLint.Proofs.Reports
import TreeLint.Proofs.Settings

/-!
# What a run loads

Up to its report a run only reads: it loads the configuration and then every dump beneath its roots,
in order, and does nothing but note events. So the report, or the fault that ends the run without
one, depends on the file tree alone, whatever the reader makes of the contents of files.

## Main definitions

* `Cli.Yields`: a computation with a result that does nothing but note events
* `Cli.visits`: the dumps of a run in the order in which they are found
* `Cli.Configured`, `Cli.Loads`: what the configuration and a dump load as
* `Cli.reported`: the report of a run, or how it ends without one

## Main results

* `Cli.Yields.bind`, `Cli.Yields.foldlM`: computations in sequence and in a loop
* `Cli.yields_makeReport`: a run makes its report and does nothing else
* `Cli.reported_eq_ok_iff`: the report is that of the dumps, if the configuration and they load
* `Cli.ne_finished_of_reported`: a run without a report does not finish
-/

namespace TreeLint

/-! ## Worlds -/

namespace Cli.World

@[simp]
theorem noted_nil (w : World) : w.noted [] = w := by
  simp [noted]

@[simp]
theorem noted_noted (first second : List Event) (w : World) :
    (w.noted first).noted second = w.noted (first ++ second) := by
  simp [noted]

@[simp]
theorem printed_printed (first second : String) (w : World) :
    (w.printed first).printed second = w.printed (first ++ second) := by
  simp [printed, String.append_assoc]

end Cli.World

namespace Cli

open Loops

/-! ## Computations that note events -/

variable {α β : Type} {reader : Document.Reader} {tree : FileTree} {options : Options}
  {registry : Registry}

/-- On every world with the given file tree, the computation has the given result, and it does
nothing but note events. -/
def Yields (tree : FileTree) (x : Step (StateM World) α) (result : Except Ending α) : Prop :=
  ∀ w : World, w.tree = tree → ∃ events, x.run.run w = (result, w.noted events)

namespace Yields

theorem pure (a : α) : Yields tree (pure a) (.ok a) := by
  intro w _
  exact ⟨[], by rw [World.noted_nil]; rfl⟩

theorem throw (ending : Ending) : Yields tree (throw ending : Step (StateM World) α)
    (.error ending) := by
  intro w _
  exact ⟨[], by rw [World.noted_nil]; rfl⟩

theorem readFile (path : Path) :
    Yields tree (ExceptT.lift (World.machine.readFile path)) (.ok (tree.readFile path)) := by
  rintro w rfl
  exact ⟨[], by rw [World.noted_nil]; rfl⟩

theorem survey (root : Path) :
    Yields tree (ExceptT.lift (World.machine.survey root)) (.ok (tree.survey root)) := by
  rintro w rfl
  exact ⟨[], by rw [World.noted_nil]; rfl⟩

/-- Two computations in sequence note their events in sequence, and the second is left out if the
first fails. -/
theorem bind {x : Step (StateM World) α} {f : α → Step (StateM World) β} {result : Except Ending α}
    {g : α → Except Ending β} (hx : Yields tree x result)
    (hf : ∀ a, Yields tree (f a) (g a)) : Yields tree (x >>= f) (result >>= g) := by
  intro w hw
  obtain ⟨first, hfirst⟩ := hx w hw
  rw [ExceptT.run_bind, StateT.run_bind, hfirst]
  cases result with
  | error ending => exact ⟨first, rfl⟩
  | ok a =>
    obtain ⟨second, hsecond⟩ := hf a (w.noted first) hw
    exact ⟨first ++ second, hsecond.trans (by rw [World.noted_noted]; rfl)⟩

/-- A loop yields what the loop over the results of its rounds gives. -/
theorem foldlM {f : β → α → Step (StateM World) β} {g : β → α → Except Ending β}
    (hf : ∀ b a, Yields tree (f b a) (g b a)) (b : β) (as : List α) :
    Yields tree (as.foldlM f b) (as.foldlM g b) := by
  induction as generalizing b with
  | nil => exact .pure b
  | cons a as ih =>
    rw [List.foldlM_cons, List.foldlM_cons]
    exact (hf b a).bind ih

end Yields

theorem run_forM_note (events : List Event) (w : World) :
    (events.forM World.machine.note).run w = ((), w.noted events) := by
  induction events generalizing w with
  | nil => exact congrArg (Prod.mk ()) w.noted_nil.symm
  | cons event events ih =>
    refine (ih (w.noted [event])).trans ?_
    rw [World.noted_noted, List.singleton_append]

/-- A logged value is passed on, and those of its events that are shown are noted. -/
theorem yields_noting (x : Logged α) :
    Yields tree (noting World.machine options x) (.ok x.value) := by
  intro w _
  refine ⟨options.shown x.events, ?_⟩
  have hnotes := run_forM_note (options.shown x.events) w
  rw [noting, ExceptT.run_bind, ExceptT.run_lift, StateT.run_bind, StateT.run_map, hnotes]
  rfl

/-- A name that was withdrawn ends the run. -/
theorem yields_named (name : Option String) :
    Yields tree (named name) (name.elim (.error (.crashed .noPath)) .ok) := by
  cases name with
  | none => exact .throw _
  | some name => exact .pure name

/-! ## What is loaded -/

/-- The dumps beneath the roots in the order in which they are found. Where the name of a root was
withdrawn there is no path. -/
def visits (tree : FileTree) (roots : List (Option String)) : List (Option Path) :=
  roots.flatMap fun
    | none => [none]
    | some root => (discover tree dumpSuffixes (.ofString root)).map some

/-- What a visit loads, or how it ends the run. -/
def visited (reader : Document.Reader) (tree : FileTree) :
    Option Path → Except Ending (Option CompilationUnit)
  | none => .error (.crashed .noPath)
  | some path => (tree.loadUnit reader path).mapError (dumpEnding path.render)

/-- The dump of a visit loads as a unit, or as none where its file is empty or missing. -/
def Loads (reader : Document.Reader) (tree : FileTree) (visit : Option Path)
    (unit : Option CompilationUnit) : Prop :=
  ∃ path, visit = some path ∧ tree.loadUnit reader path = .ok unit

/-- A visit does not end the run exactly if its dump loads. -/
theorem visited_eq_ok_iff {visit : Option Path} {unit : Option CompilationUnit} :
    visited reader tree visit = .ok unit ↔ Loads reader tree visit unit := by
  cases visit with
  | none => simp [visited, Loads]
  | some path =>
    cases hload : tree.loadUnit reader path <;> simp [visited, Loads, hload, Except.mapError]

theorem mapM_visited_eq_ok_iff {visits : List (Option Path)}
    {units : List (Option CompilationUnit)} :
    visits.mapM (visited reader tree) = .ok units ↔
      List.Forall₂ (Loads reader tree) visits units := by
  simp only [mapM_eq_ok_iff, visited_eq_ok_iff]

/-- Where a file holds a document, its unit is the one in the document, under the name of the file.
-/
theorem loadUnit_of_read {path : Path} {content : ByteArray} {d : Document}
    (hcontent : tree.readFile path = .ok (some content)) (hread : reader content = .ok d) :
    tree.loadUnit reader path = (Dump.readUnitAt path.render d).mapError .document := by
  simp [FileTree.loadUnit, unitOfContent, hcontent, hread, Except.mapError]

/-- A report with what a visit adds to it. -/
def addVisit (registry : Registry) (report : Sink) (unit : Option CompilationUnit) : Sink :=
  unit.elim report fun unit => (lintOnto registry report unit).value

/-- Adding the visits one by one is linting the units among them, in order. -/
theorem foldl_addVisit (report : Sink) (units : List (Option CompilationUnit)) :
    units.foldl (addVisit registry) report =
      (units.reduceOption.foldlM (lintOnto registry) report).value := by
  rw [Logged.value_foldlM]
  induction units generalizing report with
  | nil => rfl
  | cons unit units ih =>
    cases unit with
    | none => exact ih report
    | some unit => exact ih (lintOnto registry report unit).value

/-- Linting what was loaded adds it to the report, and a fault ends the run. -/
theorem yields_lintLoaded (report : Sink) (path : String)
    (loaded : Except (LoadFault Dump.Fault) (Option CompilationUnit)) :
    Yields tree (lintLoaded World.machine options registry report path loaded)
      ((loaded.mapError (dumpEnding path)).map (addVisit registry report)) := by
  rcases loaded with fault | _ | unit
  · exact .throw _
  · exact .pure report
  · exact yields_noting _

/-- A report with what a visit adds to it, or how the visit ends the run. -/
def visitInto (reader : Document.Reader) (tree : FileTree) (registry : Registry) (report : Sink)
    (visit : Option Path) : Except Ending Sink :=
  (visited reader tree visit).map (addVisit registry report)

theorem yields_lintFile (report : Sink) (path : Path) :
    Yields tree (lintFile World.machine reader options registry report path)
      (visitInto reader tree registry report (some path)) :=
  (Yields.readFile path).bind fun _ => yields_lintLoaded report path.render _

/-- Linting a root is visiting the dumps beneath it, in the order in which they are found. -/
theorem yields_lintRoot (report : Sink) (root : Option String) :
    Yields tree (lintRoot World.machine reader options registry report root)
      ((visits tree [root]).foldlM (visitInto reader tree registry) report) := by
  have hroot : Yields tree (lintRoot World.machine reader options registry report root)
      (root.elim (.error (.crashed .noPath)) .ok >>= fun name =>
        (discover tree dumpSuffixes (.ofString name)).foldlM
          (fun report path => visitInto reader tree registry report (some path)) report) :=
    (yields_named root).bind fun name => (Yields.survey (.ofString name)).bind fun _ =>
      .foldlM yields_lintFile report _
  cases root with
  | none => exact hroot
  | some root =>
    simp only [visits, List.flatMap_cons, List.flatMap_nil, List.append_nil, List.foldlM_map]
    exact hroot

/-- Visiting the dumps root by root is visiting all of them in order. -/
theorem foldlM_visits (report : Sink) (roots : List (Option String)) :
    (visits tree roots).foldlM (visitInto reader tree registry) report =
      roots.foldlM (fun report root =>
        (visits tree [root]).foldlM (visitInto reader tree registry) report) report := by
  induction roots generalizing report with
  | nil => rfl
  | cons root roots ih =>
    have hvisits : visits tree (root :: roots) = visits tree [root] ++ visits tree roots := by
      simp [visits]
    rw [List.foldlM_cons, hvisits, List.foldlM_append]
    exact congrArg _ (funext ih)

/-- The report is that of the dumps in their order, if all of them load. -/
theorem yields_lintRoots :
    Yields tree (lintRoots World.machine reader options registry)
      (((visits tree options.roots).mapM (visited reader tree)).map fun units =>
        (lintAll registry units.reduceOption).value) := by
  have hvisits : (visits tree options.roots).foldlM (visitInto reader tree registry) .empty =
      ((visits tree options.roots).mapM (visited reader tree)).map fun units =>
        (lintAll registry units.reduceOption).value :=
    (foldlM_map_eq _ _ _ _).trans (congrArg (Except.map · _) (funext (foldl_addVisit .empty)))
  rw [← hvisits, foldlM_visits]
  exact .foldlM yields_lintRoot .empty options.roots

/-! ## The configuration -/

/-- The configuration loads, and it asks for a registry. -/
def Configured (reader : Document.Reader) (tree : FileTree) (options : Options)
    (registry : Registry) : Prop :=
  ∃ name config, options.config = some name ∧
    tree.loadConfig reader (.ofString name) = .ok config ∧
    (Registry.ofConfig (config.getD (pure {})).value).value = .ok registry

/-- Registering the built-in rules does not fail. -/
theorem exists_ofConfig (config : Config) :
    ∃ registry, (Registry.ofConfig config).value = .ok registry :=
  ⟨_, Registry.value_addAll config _ builtinRules Registry.nodup_builtinRules
    (by simp [Registry.ids])⟩

/-- The registry that a configuration file asks for, or how it ends the run. -/
def configured (reader : Document.Reader) (tree : FileTree) (options : Options) :
    Except Ending Registry := do
  let name ← options.config.elim (.error (.crashed .noPath)) .ok
  let config ← (tree.loadConfig reader (.ofString name)).mapError (configEnding name)
  (Registry.ofConfig (config.getD (pure {})).value).value.mapError (.crashed ∘ .registration)

theorem yields_registryFor (config : Option (Logged Config)) :
    Yields tree (registryFor World.machine options config)
      ((Registry.ofConfig (config.getD (pure {})).value).value.mapError
        (.crashed ∘ .registration)) := by
  refine (yields_noting (config.getD (pure {}) >>= Registry.ofConfig)).bind
    (g := Except.mapError (.crashed ∘ .registration)) fun result => ?_
  cases result with
  | ok registry => exact .pure registry
  | error fault => exact .throw _

/-- The registry of a run is the one that its configuration asks for. -/
theorem yields_readRegistry :
    Yields tree (readRegistry World.machine reader options) (configured reader tree options) := by
  refine (yields_named options.config).bind fun name => ?_
  refine (Yields.readFile (.ofString name)).bind
    (g := fun content => (configOfContent reader content).mapError (configEnding name) >>=
      fun config => (Registry.ofConfig (config.getD (pure {})).value).value.mapError
        (.crashed ∘ .registration)) fun content => ?_
  cases configOfContent reader content with
  | ok config => exact yields_registryFor config
  | error fault => exact .throw _

/-- The configuration does not end the run exactly if it loads: registration cannot fail. -/
theorem configured_eq_ok_iff :
    configured reader tree options = .ok registry ↔ Configured reader tree options registry := by
  rw [configured, Configured]
  cases options.config with
  | none => simp
  | some name =>
    cases hload : tree.loadConfig reader (.ofString name) with
    | error fault => simp [hload, Except.mapError]
    | ok config =>
      obtain ⟨made, hmade⟩ := exists_ofConfig (config.getD (pure {})).value
      simp [hload, Except.mapError, hmade]

theorem configured_of_error {name : String} {fault : LoadFault ConfigFault}
    (hname : options.config = some name)
    (hload : tree.loadConfig reader (.ofString name) = .error fault) :
    configured reader tree options = .error (configEnding name fault) := by
  simp [configured, hname, hload, Except.mapError]

/-! ## The report -/

/-- The report of a run, or how it ends without one. -/
def reported (reader : Document.Reader) (tree : FileTree) (options : Options) :
    Except Ending Sink := do
  let registry ← configured reader tree options
  ((visits tree options.roots).mapM (visited reader tree)).map fun units =>
    (lintAll registry units.reduceOption).value

/-- A run makes its report without doing anything but note events. -/
theorem yields_makeReport :
    Yields tree (makeReport World.machine reader options) (reported reader tree options) :=
  yields_readRegistry.bind fun _ => yields_lintRoots

/-- A run has a report exactly if its configuration and all of its dumps load, and it is then the
report on the dumps that are not empty. -/
theorem reported_eq_ok_iff {report : Sink} :
    reported reader tree options = .ok report ↔ ∃ registry units,
      Configured reader tree options registry ∧
        List.Forall₂ (Loads reader tree) (visits tree options.roots) units ∧
          report = (lintAll registry units.reduceOption).value := by
  simp only [← configured_eq_ok_iff, ← mapM_visited_eq_ok_iff]
  rw [reported]
  cases configured reader tree options with
  | error ending => simp
  | ok registry =>
    cases (visits tree options.roots).mapM (visited reader tree) with
    | error ending => simp [Except.map]
    | ok units => simp [Except.map, eq_comm]

/-! ## Runs without a report -/

theorem dumpEnding_ne_finished (path : String) (fault : LoadFault Dump.Fault) (code : Nat) :
    dumpEnding path fault ≠ .finished code := by
  rcases fault with fault | (message | message | message) | fault
  case document =>
    simp only [dumpEnding]
    cases fault.faultClass <;> simp
  all_goals simp [dumpEnding]

theorem configEnding_ne_finished (path : String) (fault : LoadFault ConfigFault) (code : Nat) :
    configEnding path fault ≠ .finished code := by
  rcases fault with fault | (message | message | message) | fault <;> simp [configEnding]

theorem ne_finished_of_visited {visit : Option Path} {ending : Ending}
    (h : visited reader tree visit = .error ending) (code : Nat) : ending ≠ .finished code := by
  cases visit with
  | none =>
    cases h
    simp
  | some path =>
    cases hload : tree.loadUnit reader path with
    | ok unit => simp [visited, hload, Except.mapError] at h
    | error fault =>
      simp only [visited, hload, Except.mapError, Except.error.injEq] at h
      subst h
      exact dumpEnding_ne_finished path.render fault code

theorem ne_finished_of_configured {ending : Ending}
    (h : configured reader tree options = .error ending) (code : Nat) :
    ending ≠ .finished code := by
  cases hname : options.config with
  | none =>
    rw [configured, hname] at h
    cases h
    simp
  | some name =>
    cases hload : tree.loadConfig reader (.ofString name) with
    | error fault =>
      rw [configured_of_error hname hload, Except.error.injEq] at h
      subst h
      exact configEnding_ne_finished name fault code
    | ok config =>
      obtain ⟨registry, hregistry⟩ := exists_ofConfig (config.getD (pure {})).value
      rw [configured_eq_ok_iff.mpr ⟨name, config, hname, hload, hregistry⟩] at h
      cases h

/-- A run without a report does not finish, so it has no exit code of its own. -/
theorem ne_finished_of_reported {ending : Ending}
    (h : reported reader tree options = .error ending) (code : Nat) :
    ending ≠ .finished code := by
  rw [reported] at h
  cases hregistry : configured reader tree options with
  | error other =>
    rw [hregistry, error_bind] at h
    cases h
    exact ne_finished_of_configured hregistry code
  | ok registry =>
    cases hunits : (visits tree options.roots).mapM (visited reader tree) with
    | ok units => simp [hregistry, hunits, Except.map] at h
    | error other =>
      simp only [hregistry, hunits, ok_bind, Except.map, Except.error.injEq] at h
      subst h
      obtain ⟨visit, -, hvisit⟩ := exists_of_mapM_eq_error hunits
      exact ne_finished_of_visited hvisit code

end Cli

end TreeLint
