import TreeLint.Proofs.Emission
import TreeLint.Proofs.SinkRun
import TreeLint.Proofs.StableSort
import TreeLint.Report

/-!
# Reports on several units

A report on several units is made in one of two ways. Each unit is linted into a sink of its own,
and the sorted diagnostics are added to the report; or all units are linted into one sink. The
recorded lists can differ, but those at one site and of one rule come in the same order in both, and
this is all that reports show.

The order of the units matters even less: units with the same members give the same diagnostics,
and only ties can change places.

## Main definitions

* `lintShared`: linting units one by one into one sink
* `Sink.SameTies`: two sinks have the same ties in the order of sites
* `Diagnostic.sortKey`: what the order of sites compares

## Main results

* `Sink.SameTies.toDocument_eq` and its kin: sinks with the same ties are shown alike
* `lintAll_shows_lintShared`: the two ways of making a report show the same
* `lintAll_of_same_members`: neither order nor repetition of units matters
-/

namespace TreeLint

/-- Lints units one by one into one sink. -/
def lintShared (registry : Registry) (units : List CompilationUnit) : Logged Sink :=
  units.foldlM (fun sink unit => lintInto ⟨unit, none⟩ registry sink) .empty

/-! ## Sinks with the same ties -/

namespace Diagnostic

/-- Ties in the order of ranks are ties in the order of sites that have the same severity. -/
theorem ties_compareRank (d : Diagnostic) (ds : List Diagnostic) :
    ties compareRank d ds =
      (ties compareSite d ds).filter fun e => compareOn (fun d => d.severity.rank) d e == .eq := by
  rw [ties, ties, List.filter_filter]
  refine List.filter_congr fun e _ => ?_
  rw [Bool.eq_iff_iff, Bool.and_eq_true, beq_iff_eq, beq_iff_eq, beq_iff_eq]
  exact Ordering.then_eq_eq

end Diagnostic

namespace Sink

variable {s t : Sink}

/-- The diagnostics of two sinks that are at one site and of one rule come in the same order. -/
def SameTies (s t : Sink) : Prop :=
  ∀ d, ties Diagnostic.compareSite d s.diagnostics = ties Diagnostic.compareSite d t.diagnostics

namespace SameTies

theorem perm (h : s.SameTies t) : s.diagnostics.Perm t.diagnostics :=
  perm_of_ties h

/-- The sorted diagnostics depend on the order of ties only. -/
theorem sorted_eq (h : s.SameTies t) : s.sorted = t.sorted :=
  mergeSort_eq_of_ties h

theorem top_eq (h : s.SameTies t) (limit : Option Int) : s.top limit = t.top limit := by
  refine congrArg (sliceTo limit) (mergeSort_eq_of_ties fun d => ?_)
  rw [Diagnostic.ties_compareRank, Diagnostic.ties_compareRank, h d]

end SameTies

/-- The summaries of sinks with the same diagnostics agree, whatever the order. -/
theorem Tallied.summary_eq_of_perm (hs : s.Tallied) (ht : t.Tallied)
    (h : s.diagnostics.Perm t.diagnostics) : s.summary = t.summary := by
  rw [hs, ht, Summary.tally_perm h]

theorem exitCode_eq_of_perm (h : s.diagnostics.Perm t.diagnostics) : s.exitCode = t.exitCode := by
  rw [exitCode_eq, exitCode_eq]
  simp only [h.mem_iff]

theorem passed_eq_of_summary_eq (h : s.summary = t.summary) : s.passed = t.passed := by
  rw [passed, passed, h]

namespace SameTies

/-- The document of a report depends on the order of ties and on the summary. -/
theorem toDocument_eq (h : s.SameTies t) (hsummary : s.summary = t.summary) :
    s.toDocument = t.toDocument := by
  rw [toDocument, toDocument, hsummary, h.sorted_eq, passed_eq_of_summary_eq hsummary]

theorem table_eq (h : s.SameTies t) (hsummary : s.summary = t.summary) (limit : Option Int) :
    s.table limit = t.table limit := by
  rw [table, table, tableLines, tableLines, status, status, hsummary, h.top_eq,
    passed_eq_of_summary_eq hsummary]

end SameTies

end Sink

/-! ## The two ways of making a report -/

section Ways

variable (registry : Registry) (units : List CompilationUnit)

theorem value_lintShared :
    (lintShared registry units).value = Sink.empty.acceptAll
      (units.flatMap fun unit => emissions ⟨unit, none⟩ registry.entries unit.roots) := by
  unfold lintShared
  rw [Logged.value_foldlM]
  exact Sink.foldl_eq_acceptAll
    (fun sink unit => value_traverse ⟨unit, none⟩ registry.entries unit.roots sink) .empty units

theorem diagnostics_lintShared :
    (lintShared registry units).value.diagnostics =
      (units.flatMap fun unit =>
        emissions ⟨unit, none⟩ registry.entries unit.roots).eraseDups := by
  rw [value_lintShared, Sink.coherent_empty.diagnostics_acceptAll]
  rfl

theorem diagnostics_lintAll :
    (lintAll registry units).value.diagnostics =
      (units.flatMap fun unit => (lint registry unit).value.sorted).eraseDups := by
  rw [value_lintAll, Sink.coherent_empty.diagnostics_acceptAll]
  rfl

/-- The summary of the report on several units counts its diagnostics. -/
theorem tallied_lintAll : (lintAll registry units).value.Tallied := by
  rw [value_lintAll]
  exact Sink.tallied_empty.acceptAll _

theorem tallied_lintShared : (lintShared registry units).value.Tallied := by
  rw [value_lintShared]
  exact Sink.tallied_empty.acceptAll _

/-- Sorting the diagnostics of a unit leaves ties in the order in which they were emitted. -/
theorem ties_sorted_lint (d : Diagnostic) (unit : CompilationUnit) :
    ties Diagnostic.compareSite d (lint registry unit).value.sorted =
      (ties Diagnostic.compareSite d
        (emissions ⟨unit, none⟩ registry.entries unit.roots)).eraseDups := by
  have hsorted : StableArrangement Diagnostic.compareSite (lint registry unit).value.diagnostics
      (lint registry unit).value.sorted := stableArrangement_mergeSort _
  refine (hsorted.ties_eq d).trans ?_
  rw [diagnostics_lint, ties, ← eraseDups_filter]
  rfl

/-- Both ways record the ties of every unit in the order of their emission. -/
theorem sameTies_lintAll_lintShared :
    (lintAll registry units).value.SameTies (lintShared registry units).value := by
  intro d
  have hflat : ∀ f : CompilationUnit → List Diagnostic,
      ties Diagnostic.compareSite d (units.flatMap f).eraseDups =
        (units.flatMap fun unit => ties Diagnostic.compareSite d (f unit)).eraseDups := by
    intro f
    rw [ties, ← eraseDups_filter, List.filter_flatMap]
    rfl
  rw [diagnostics_lintAll, diagnostics_lintShared, hflat, hflat]
  -- Dropping duplicates unit by unit first makes no difference to dropping them at the end.
  simp only [ties_sorted_lint]
  exact eraseDups_flatMap_eraseDups _ units

/-- The report on one unit lists its diagnostics in the order of their sites. -/
theorem diagnostics_lintAll_singleton (unit : CompilationUnit) :
    (lintAll registry [unit]).value.diagnostics = (lint registry unit).value.sorted := by
  have hnodup : (lint registry unit).value.sorted.Nodup := by
    rw [Sink.sorted, (List.mergeSort_perm _ _).nodup_iff, diagnostics_lint]
    exact nodup_eraseDups _
  rw [diagnostics_lintAll, List.flatMap_singleton, eraseDups_of_nodup hnodup]

end Ways

/-- A unit with unchecked functions on the lines, in this order. -/
def uncheckedOnLines (lines : List Int) : CompilationUnit where
  name := "lib"
  items := lines.map fun line =>
    .function "run" (.written ⟨"src/lib.rs", line, 1, line, 9⟩) .unchecked [] none
  definitions := []
  langItems := {}

/-- The diagnostic of an unchecked function on a line. -/
def uncheckedOnLine (line : Int) : Diagnostic where
  rule := "security_unsafe_usage"
  severity := .deny
  span := .written ⟨"src/lib.rs", line, 1, line, 9⟩
  message := "Unsafe function detected."
  category := .named "function"

/-- **Both ways of making a report show the same.** For every registry and all units, the report
made from the sorted diagnostics of each unit and the sink that all units share are written as the
same document, with the same summary, sorted diagnostics and verdict, ask for the same exit code,
and have the same first diagnostics and the same table up to any limit. Still they may have recorded
their diagnostics in different orders. -/
theorem lintAll_shows_lintShared :
    (∀ (registry : Registry) (units : List CompilationUnit),
      let report := (lintAll registry units).value
      let shared := (lintShared registry units).value
      report.toDocument = shared.toDocument ∧
      report.summary = shared.summary ∧ report.sorted = shared.sorted ∧
      report.passed = shared.passed ∧ report.exitCode = shared.exitCode ∧
      (∀ limit, report.top limit = shared.top limit) ∧
      (∀ limit, report.table limit = shared.table limit)) ∧
    ∃ registry units, (Registry.ofDocument .null).value = .ok registry ∧
      (lintAll registry units).value.diagnostics ≠
        (lintShared registry units).value.diagnostics := by
  refine ⟨fun registry units => ?_, ?_⟩
  · have hties := sameTies_lintAll_lintShared registry units
    have hsummary := (tallied_lintAll registry units).summary_eq_of_perm
      (tallied_lintShared registry units) hties.perm
    exact ⟨hties.toDocument_eq hsummary, hsummary, hties.sorted_eq,
      Sink.passed_eq_of_summary_eq hsummary, Sink.exitCode_eq_of_perm hties.perm, hties.top_eq,
      hties.table_eq hsummary⟩
  · let plain : Registry := ⟨builtinRules.map fun rule => ⟨rule, rule.severity, []⟩, []⟩
    refine ⟨plain, [uncheckedOnLines [2, 1]], rfl, fun hsame => ?_⟩
    have hshared : (lintShared plain [uncheckedOnLines [2, 1]]).value.diagnostics =
        [uncheckedOnLine 2, uncheckedOnLine 1] := by
      rw [diagnostics_lintShared]
      decide +kernel
    have hsorted : [uncheckedOnLine 2, uncheckedOnLine 1].Pairwise
        fun a b => (Diagnostic.compareSite a b).isLE := by
      rw [← hshared, ← hsame, diagnostics_lintAll_singleton]
      exact (stableArrangement_mergeSort _).sorted
    have hle := List.rel_of_pairwise_cons hsorted (List.mem_singleton_self _)
    exact absurd hle (by decide)

/-! ## Order and repetition of units -/

namespace Diagnostic

/-- What the order of sites compares: file, line, column and rule. -/
def sortKey (d : Diagnostic) : String × Int × Int × String :=
  (d.span.region.file, d.span.region.line, d.span.region.column, d.rule)

theorem compareSite_congr {a b a' b' : Diagnostic} (ha : a.sortKey = a'.sortKey)
    (hb : b.sortKey = b'.sortKey) : compareSite a b = compareSite a' b' := by
  simp only [sortKey, Prod.mk.injEq] at ha hb
  simp only [compareSite, compareLex, compareOn, ha, hb]

/-- Diagnostics tie exactly if their sort keys are the same. -/
theorem compareSite_eq_iff {a b : Diagnostic} :
    compareSite a b = .eq ↔ a.sortKey = b.sortKey := by
  simp [compareSite, compareLex, compareOn, sortKey, Ordering.then_eq_eq]

/-- Diagnostics that come in any order are sorted to the same sequence of keys. -/
theorem map_sortKey_mergeSort_of_perm {ds es : List Diagnostic} (h : ds.Perm es) :
    (ds.mergeSort fun a b => (compareSite a b).isLE).map sortKey =
      (es.mergeSort fun a b => (compareSite a b).isLE).map sortKey := by
  let le : String × Int × Int × String → String × Int × Int × String → Prop :=
    fun k l => ∃ a b : Diagnostic, a.sortKey = k ∧ b.sortKey = l ∧ (compareSite a b).isLE
  have hsorted : ∀ ds : List Diagnostic,
      ((ds.mergeSort fun a b => (compareSite a b).isLE).map sortKey).Pairwise le := by
    intro ds
    rw [List.pairwise_map]
    exact (stableArrangement_mergeSort ds).sorted.imp fun hab => ⟨_, _, rfl, rfl, hab⟩
  have hantisymm : ∀ k l, le k l → le l k → k = l := by
    rintro k l ⟨a, b, rfl, rfl, hab⟩ ⟨b', a', hb, ha, hba⟩
    rw [compareSite_congr hb ha] at hba
    exact compareSite_eq_iff.mp (Std.OrientedCmp.isLE_antisymm hab hba)
  have hperm := ((List.mergeSort_perm ds fun a b => (compareSite a b).isLE).trans h).trans
    (List.mergeSort_perm es fun a b => (compareSite a b).isLE).symm
  exact (hperm.map sortKey).eq_of_pairwise (fun k l _ _ => hantisymm k l) (hsorted ds) (hsorted es)

end Diagnostic

section Members

variable {registry : Registry} {units others : List CompilationUnit}

theorem coherent_lintAll (registry : Registry) (units : List CompilationUnit) :
    (lintAll registry units).value.Coherent := by
  rw [value_lintAll]
  refine Sink.coherent_empty.acceptAll fun d hd => ?_
  obtain ⟨unit, -, hd⟩ := List.mem_flatMap.mp hd
  exact isRecordable_of_mem_emissions (mem_sorted_lint.mp hd)

/-- Reports on units with the same members hold the same diagnostics. -/
theorem perm_lintAll (h : ∀ unit, unit ∈ units ↔ unit ∈ others) :
    (lintAll registry units).value.diagnostics.Perm
      (lintAll registry others).value.diagnostics := by
  refine (List.perm_ext_iff_of_nodup (coherent_lintAll registry units).nodup
    (coherent_lintAll registry others).nodup).mpr fun d => ?_
  simp only [mem_lintAll, h]

/-- A sink that has seen all that it is offered stays as it is. -/
theorem Sink.acceptAll_of_seen {s : Sink} {ds : List Diagnostic}
    (h : ∀ d ∈ ds, s.seen.contains d) : s.acceptAll ds = s := by
  induction ds with
  | nil => rfl
  | cons d ds ih =>
    have hd : s.accept d = s := if_pos (h d List.mem_cons_self)
    rw [acceptAll_cons, hd, ih fun e he => h e (List.mem_cons_of_mem d he)]

/-- Linting a unit again adds nothing to a report. -/
theorem value_lintOnto_of_mem {unit : CompilationUnit} (h : unit ∈ units) :
    (lintOnto registry (lintAll registry units).value unit).value =
      (lintAll registry units).value := by
  rw [value_lintOnto]
  refine Sink.acceptAll_of_seen fun d hd => ?_
  rw [(coherent_lintAll registry units).contains_seen, mem_lintAll]
  exact ⟨unit, h, mem_sorted_lint.mp hd⟩

/-- **Neither the order nor the repetition of units matters.** Reports on lists of units with the
same members hold the same diagnostics and agree in summary, verdict and exit code. Their sorted
views have the same sequence of keys and differ only in the order of diagnostics with one key. To
lint a unit again leaves the report as it is. -/
theorem lintAll_of_same_members (h : ∀ unit, unit ∈ units ↔ unit ∈ others) :
    let report := (lintAll registry units).value
    let other := (lintAll registry others).value
    (∀ d, d ∈ report.diagnostics ↔ d ∈ other.diagnostics) ∧
    report.summary = other.summary ∧ report.passed = other.passed ∧
    report.exitCode = other.exitCode ∧
    report.sorted.map Diagnostic.sortKey = other.sorted.map Diagnostic.sortKey ∧
    (∀ key, (report.sorted.filter fun d => d.sortKey == key).Perm
      (other.sorted.filter fun d => d.sortKey == key)) ∧
    ∀ unit ∈ units, (lintOnto registry report unit).value = report := by
  intro report other
  have hperm : report.diagnostics.Perm other.diagnostics := perm_lintAll h
  have hsummary : report.summary = other.summary :=
    (tallied_lintAll registry units).summary_eq_of_perm (tallied_lintAll registry others) hperm
  have hsorted : report.sorted.Perm other.sorted :=
    ((List.mergeSort_perm _ _).trans hperm).trans (List.mergeSort_perm _ _).symm
  exact ⟨fun d => hperm.mem_iff, hsummary, Sink.passed_eq_of_summary_eq hsummary,
    Sink.exitCode_eq_of_perm hperm, Diagnostic.map_sortKey_mergeSort_of_perm hperm,
    fun key => hsorted.filter _, fun unit hunit => value_lintOnto_of_mem hunit⟩

end Members

/-- Two units that share a diagnostic, one of them linted twice: the reports agree, and linting it
once more changes nothing. -/
theorem lintAll_uncheckedOnLines :
    ∃ registry, (Registry.ofDocument .null).value = .ok registry ∧
      let first := uncheckedOnLines [2, 1]
      let second := uncheckedOnLines [1, 3]
      let report := (lintAll registry [first, second, first]).value
      let other := (lintAll registry [second, first]).value
      report.summary = other.summary ∧ report.exitCode = other.exitCode ∧
      report.sorted.map Diagnostic.sortKey = other.sorted.map Diagnostic.sortKey ∧
      (lintOnto registry report first).value = report := by
  obtain ⟨registry, h⟩ : ∃ registry, (Registry.ofDocument .null).value = .ok registry :=
    ⟨_, rfl⟩
  have hmembers : ∀ unit,
      unit ∈ [uncheckedOnLines [2, 1], uncheckedOnLines [1, 3], uncheckedOnLines [2, 1]] ↔
        unit ∈ [uncheckedOnLines [1, 3], uncheckedOnLines [2, 1]] := by
    intro unit
    simp only [List.mem_cons, List.not_mem_nil, or_false]
    tauto
  obtain ⟨-, hsummary, -, hexit, hkeys, -, hagain⟩ := lintAll_of_same_members hmembers
  exact ⟨registry, h, hsummary, hexit, hkeys, hagain _ List.mem_cons_self⟩

end TreeLint
