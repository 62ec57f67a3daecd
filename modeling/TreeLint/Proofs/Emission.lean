import TreeLint.Lint
import TreeLint.Proofs.Logged
import TreeLint.Proofs.Sink
import TreeLint.Proofs.Walk

/-!
# What a traversal emits

Offering a node to an entry adds a list of diagnostics to the sink and a list of records to the log,
neither of which depends on the sink. The rule can fail, its diagnostics can fail to be filtered,
and recording them can fail half-way; in each case the emission says what is left of the offer, and
one record is noted. A traversal is the sequence of its offers.

## Main definitions

* `Entry.emission`: the diagnostics that an offer contributes
* `Entry.fault?`, `Entry.failure?`: the event and the record of an offer that fails
* `emissions`, `records`: the contributions and the records of all offers in order

## Main results

* `value_offer`, `events_offer`, `records_offer`: an offer contributes its emission and notes its
  failure
* `value_traverse`, `events_traverse`: a traversal contributes all emissions and notes all failures
* `traverse_emits_contributions`: the diagnostics and the log of a traversal
-/

namespace TreeLint

/-- A line of the log. -/
structure Record where
  level : Level
  component : Component
  message : String
  deriving DecidableEq

/-- The line of the log for an event. -/
def Event.record (e : Event) : Record :=
  ⟨e.level, e.component, e.message⟩

namespace Entry

/-- Whether the category of a diagnostic is not disabled. -/
def retains (e : Entry) (d : Diagnostic) : Bool :=
  !d.category.isAmong e.disabledCategories

/-- The diagnostic with the severity of the entry, where that is not the rule's own. -/
def restamp (e : Entry) (d : Diagnostic) : Diagnostic :=
  if e.severity = e.rule.severity then d else { d with severity := e.severity }

/-- What an offer contributes, by the outcome of the rule. A diagnostic that cannot be recorded
spoils the whole offer when categories are disabled, and otherwise what comes after it. -/
def emission (e : Entry) : Outcome → List Diagnostic
  | .reported ds =>
    if e.disabledCategories ≠ [] ∧ ∃ d ∈ ds, ¬ d.isRecordable then []
    else ((ds.filter e.retains).map e.restamp).takeWhile Diagnostic.isRecordable
  | .nothing => []
  | .unclassified _ => []
  | .failed => []

/-- The event of an offer that fails, by the outcome of the rule. -/
def fault? (e : Entry) (node : Node) : Outcome → Option Event
  | .reported ds =>
    if ∃ d ∈ ds, ¬ d.isRecordable then some (.ruleFailed e.id node.kindName) else none
  | .nothing => none
  | .unclassified reason => some (.unclassified e.id node.kindName reason)
  | .failed => some (.ruleFailed e.id node.kindName)

/-- The warning that a rule failed on a node. -/
def warning (e : Entry) (node : Node) : Record :=
  ⟨.warning, .walker, "Rule " ++ e.id ++ " failed on " ++ node.kindName⟩

/-- The record of an offer that fails, by the outcome of the rule. -/
def failure? (e : Entry) (node : Node) : Outcome → Option Record
  | .reported ds => if ∃ d ∈ ds, ¬ d.isRecordable then some (e.warning node) else none
  | .nothing => none
  | .unclassified reason => some ⟨.debug, .walker,
      "Rule " ++ e.id ++ " could not classify " ++ node.kindName ++ ": " ++ reason⟩
  | .failed => some (e.warning node)

theorem map_record_fault? (e : Entry) (node : Node) (o : Outcome) :
    (e.fault? node o).map Event.record = e.failure? node o := by
  cases o with
  | reported ds => exact (apply_ite (Option.map Event.record) _ _ _).trans rfl
  | nothing => rfl
  | unclassified reason => rfl
  | failed => rfl

theorem component_of_mem_fault? {e : Entry} {node : Node} {o : Outcome} {event : Event}
    (h : event ∈ e.fault? node o) : event.component = .walker := by
  cases o with
  | reported ds =>
    rw [fault?] at h
    split at h
    · cases h
      rfl
    · cases h
  | nothing => cases h
  | unclassified reason =>
    cases h
    rfl
  | failed =>
    cases h
    rfl

@[simp]
theorem isRecordable_restamp (e : Entry) (d : Diagnostic) :
    (e.restamp d).isRecordable = d.isRecordable := by
  unfold restamp
  split <;> rfl

/-- What an entry emits can be recorded: it is cut off before the first diagnostic that cannot. -/
theorem isRecordable_of_mem_emission {e : Entry} {o : Outcome} {d : Diagnostic}
    (hd : d ∈ e.emission o) : d.isRecordable := by
  unfold emission at hd
  split at hd
  · split at hd
    · simp at hd
    · exact List.mem_takeWhile_imp hd
  all_goals simp at hd

/-! ## One offer -/

theorem filter_retains_of_isEmpty {e : Entry} (he : e.disabledCategories = [])
    (ds : List Diagnostic) : ds.filter e.retains = ds := by
  refine List.filter_eq_self.mpr fun d _ => ?_
  cases hc : d.category <;> simp [retains, Category.isAmong, hc, he]

/-- Overriding the severity stamps each diagnostic on its own. -/
theorem overrideSeverity_eq (e : Entry) (ds : List Diagnostic) :
    e.overrideSeverity ds = ds.map e.restamp := by
  unfold overrideSeverity
  split
  case isTrue h =>
    have hsame : e.restamp = fun d => d := funext fun d => if_pos h
    rw [hsame, List.map_id']
  case isFalse h => exact List.map_congr_left fun d _ => (if_neg h).symm

/-- With disabled categories the whole offer fails when one diagnostic cannot be recorded. -/
theorem contribution_eq (e : Entry) (ds : List Diagnostic) :
    e.contribution ds =
      if e.disabledCategories ≠ [] ∧ ∃ d ∈ ds, ¬ d.isRecordable then .error .compositeCategory
      else .ok ((ds.filter e.retains).map e.restamp) := by
  unfold contribution dropDisabled
  by_cases he : e.disabledCategories = []
  · rw [if_pos (by simp [he]), if_neg (by simp [he]), filter_retains_of_isEmpty he]
    exact congrArg Except.ok (e.overrideSeverity_eq ds)
  · rw [if_neg (by simpa using he)]
    by_cases hds : ∃ d ∈ ds, ¬ d.isRecordable
    · have hall : ¬ (ds.all fun d => d.category.isRecordable) = true := by
        simpa [Diagnostic.isRecordable] using hds
      rw [if_neg hall, if_pos ⟨he, hds⟩]
      rfl
    · have hall : (ds.all fun d => d.category.isRecordable) = true := by
        simpa [Diagnostic.isRecordable] using hds
      rw [if_pos hall, if_neg fun h => hds h.2]
      exact congrArg Except.ok (e.overrideSeverity_eq _)

/-- Recording an offer contributes its emission; it fails when a diagnostic cannot be recorded. -/
theorem recordAll_eq (e : Entry) (ds : List Diagnostic) (sink : Sink) :
    recordAll e ds sink = (sink.acceptAll (e.emission (.reported ds)),
      if ∃ d ∈ ds, ¬ d.isRecordable then .error .compositeCategory else .ok ()) := by
  unfold recordAll
  rw [contribution_eq]
  by_cases hspoilt : e.disabledCategories ≠ [] ∧ ∃ d ∈ ds, ¬ d.isRecordable
  · rw [if_pos hspoilt, if_pos hspoilt.2, emission, if_pos hspoilt]
    rfl
  · -- Either nothing is dropped or everything can be recorded, so dropping hides no failure.
    have hall : ((ds.filter e.retains).map e.restamp).all Diagnostic.isRecordable ↔
        ¬ ∃ d ∈ ds, ¬ d.isRecordable := by
      by_cases he : e.disabledCategories = []
      · simp [filter_retains_of_isEmpty he]
      · have hds : ¬ ∃ d ∈ ds, ¬ d.isRecordable := fun h => hspoilt ⟨he, h⟩
        have hrec : ∀ d ∈ ds, d.isRecordable := by simpa using hds
        refine iff_of_true (List.all_eq_true.mpr fun d hd => ?_) hds
        obtain ⟨d', hd', rfl⟩ := List.mem_map.mp hd
        rw [isRecordable_restamp]
        exact hrec d' (List.mem_filter.mp hd').1
    rw [if_neg hspoilt, emission, if_neg hspoilt]
    refine (Sink.extend_eq sink _).trans ?_
    by_cases hds : ∃ d ∈ ds, ¬ d.isRecordable
    · rw [if_pos hds, if_neg (hall.not.mpr (not_not_intro hds))]
    · rw [if_neg hds, if_pos (hall.mpr hds)]

end Entry

/-- An offer contributes its emission. -/
theorem value_offer (context : Context) (node : Node) (sink : Sink) (e : Entry) :
    (offer context node sink e).value =
      sink.acceptAll (e.emission (e.rule.check context node).value) := by
  unfold offer
  rw [Logged.value_bind]
  cases (e.rule.check context node).value with
  | reported ds =>
    -- The sink that recording leaves is kept, whether or not recording fails.
    simp only [Entry.recordAll_eq]
    by_cases hds : ∃ d ∈ ds, ¬ d.isRecordable
    · rw [if_pos hds]
    · rw [if_neg hds]
      rfl
  | nothing => rfl
  | unclassified reason => rfl
  | failed => rfl

/-- An offer notes what the rule notes and its failure, whatever the sink. -/
theorem events_offer (context : Context) (node : Node) (sink : Sink) (e : Entry) :
    (offer context node sink e).events =
      (e.rule.check context node).events ++
        (e.fault? node (e.rule.check context node).value).toList := by
  unfold offer
  rw [Logged.events_bind]
  congr 1
  cases (e.rule.check context node).value with
  | reported ds =>
    simp only [Entry.recordAll_eq, Entry.fault?]
    by_cases hds : ∃ d ∈ ds, ¬ d.isRecordable
    · rw [if_pos hds, if_pos hds]
      rfl
    · rw [if_neg hds, if_neg hds]
      rfl
  | nothing => rfl
  | unclassified reason => rfl
  | failed => rfl

/-- Offering the outcome of a rule notes the events of the rule and then its failure, if it failed.
-/
theorem records_offer (context : Context) (node : Node) (sink : Sink) (e : Entry) :
    (offer context node sink e).events.map Event.record =
      (e.rule.check context node).events.map Event.record ++
        (e.failure? node (e.rule.check context node).value).toList := by
  rw [events_offer, List.map_append, ← Option.toList_map, Entry.map_record_fault?]

/-! ## All offers -/

/-- The contributions of all offers, node by node in pre-order and entry by entry. -/
def emissions (context : Context) (entries : List Entry) (roots : List Node) : List Diagnostic :=
  (roots.flatMap Node.preorder).flatMap fun node =>
    entries.flatMap fun e => e.emission (e.rule.check context node).value

/-- The warning for a node whose children are not known. -/
def Node.skipped (node : Node) : List Record :=
  if node.isForeign then
    [⟨.warning, .walker, "Skipping children of " ++ node.kindName ++ ": " ++
      ("unsupported node kind " ++ node.kindName)⟩]
  else []

/-- The records of all offers in order; those of a foreign node are followed by a warning. -/
def records (context : Context) (entries : List Entry) (roots : List Node) : List Record :=
  (roots.flatMap Node.preorder).flatMap fun node =>
    (entries.flatMap fun e => (e.rule.check context node).events.map Event.record ++
      (e.failure? node (e.rule.check context node).value).toList) ++ node.skipped

theorem isRecordable_of_mem_emissions {context : Context} {entries : List Entry}
    {roots : List Node} {d : Diagnostic} (hd : d ∈ emissions context entries roots) :
    d.isRecordable := by
  obtain ⟨node, -, hnode⟩ := List.mem_flatMap.mp hd
  obtain ⟨e, -, he⟩ := List.mem_flatMap.mp hnode
  exact Entry.isRecordable_of_mem_emission he

/-- A visit accepts the emissions of the entries on the node, in the order of the entries. -/
theorem value_visit (context : Context) (entries : List Entry) (sink : Sink) (node : Node) :
    (visit context entries sink node).value = sink.acceptAll
      (entries.flatMap fun e => e.emission (e.rule.check context node).value) := by
  unfold visit
  rw [Logged.value_bind, Logged.value_foldlM]
  exact Sink.foldl_eq_acceptAll (value_offer context node) sink entries

/-- A traversal contributes the emissions of all offers. -/
theorem value_traverse (context : Context) (entries : List Entry) (roots : List Node)
    (sink : Sink) :
    (traverse context entries roots sink).value =
      sink.acceptAll (emissions context entries roots) := by
  unfold traverse
  rw [Logged.value_foldlM, walk_eq_flatMap]
  exact Sink.foldl_eq_acceptAll (value_visit context entries) sink _

theorem records_skippedChildren (node : Node) :
    (skippedChildren node).map Event.record = node.skipped := by
  unfold skippedChildren Node.skipped
  split
  · rfl
  · rfl

/-- A visit records what the rules noted, their failures and the children that are skipped. -/
theorem records_visit (context : Context) (entries : List Entry) (sink : Sink) (node : Node) :
    (visit context entries sink node).events.map Event.record =
      (entries.flatMap fun e => (e.rule.check context node).events.map Event.record ++
        (e.failure? node (e.rule.check context node).value).toList) ++ node.skipped := by
  unfold visit
  rw [Logged.events_bind, List.map_append, Logged.map_events_foldlM (records_offer context node),
    records_skippedChildren]

theorem events_visit (context : Context) (entries : List Entry) (sink : Sink) (node : Node) :
    (visit context entries sink node).events =
      (entries.flatMap fun e => (e.rule.check context node).events ++
        (e.fault? node (e.rule.check context node).value).toList) ++ skippedChildren node := by
  unfold visit
  rw [Logged.events_bind, Logged.events_foldlM (events_offer context node)]

/-- A traversal notes what the rules note and the failures of all offers. -/
theorem events_traverse (context : Context) (entries : List Entry) (roots : List Node)
    (sink : Sink) :
    (traverse context entries roots sink).events =
      (walk roots).flatMap fun node =>
        (entries.flatMap fun e => (e.rule.check context node).events ++
          (e.fault? node (e.rule.check context node).value).toList) ++ skippedChildren node := by
  unfold traverse
  rw [Logged.events_foldlM (events_visit context entries)]

/-- The records of a walk are those of its visits in sequence, whatever the sink held before. -/
theorem records_traverse (context : Context) (entries : List Entry) (roots : List Node)
    (sink : Sink) :
    (traverse context entries roots sink).events.map Event.record =
      records context entries roots := by
  unfold traverse
  rw [Logged.map_events_foldlM (records_visit context entries), walk_eq_flatMap]
  rfl

/-- **The emission law.** A traversal adds to the diagnostics of the sink the first occurrences of
the contributions of all offers, except for those that the sink has seen; in a coherent sink these
are the recorded ones. It notes one record for each offer that fails, and a warning for each node
whose children are not known. -/
theorem traverse_emits_contributions (context : Context) (entries : List Entry)
    (roots : List Node) (sink : Sink) :
    (traverse context entries roots sink).value.diagnostics = sink.diagnostics ++
      ((emissions context entries roots).filter fun d => !sink.seen.contains d).eraseDups ∧
    (sink.Coherent →
      (traverse context entries roots sink).value.Coherent ∧
      (traverse context entries roots sink).value.diagnostics = sink.diagnostics ++
        ((emissions context entries roots).removeAll sink.diagnostics).eraseDups) ∧
    (traverse context entries roots sink).events.map Event.record =
      records context entries roots := by
  rw [value_traverse]
  refine ⟨Sink.diagnostics_acceptAll _ _, fun hs => ⟨?_, ?_⟩, records_traverse _ _ _ _⟩
  · exact hs.acceptAll fun d => isRecordable_of_mem_emissions
  · rw [hs.diagnostics_acceptAll, List.eraseDups_append, eraseDups_of_nodup hs.nodup]

/-! ## Linting units -/

section Units

variable {registry : Registry} {unit : CompilationUnit} {units : List CompilationUnit}
  {d : Diagnostic}

/-- Linting a unit records what is emitted on the walk through it. -/
theorem value_lint (registry : Registry) (unit : CompilationUnit) :
    (lint registry unit).value =
      Sink.empty.acceptAll (emissions ⟨unit, none⟩ registry.entries unit.roots) :=
  value_traverse ⟨unit, none⟩ registry.entries unit.roots .empty

/-- Linting a unit records the first occurrences of its emissions. -/
theorem diagnostics_lint (registry : Registry) (unit : CompilationUnit) :
    (lint registry unit).value.diagnostics =
      (emissions ⟨unit, none⟩ registry.entries unit.roots).eraseDups := by
  rw [value_lint, Sink.coherent_empty.diagnostics_acceptAll]
  rfl

/-- The sorted result of a unit holds exactly what is emitted on the walk. -/
theorem mem_sorted_lint :
    d ∈ (lint registry unit).value.sorted ↔
      d ∈ emissions ⟨unit, none⟩ registry.entries unit.roots := by
  rw [Sink.sorted, List.mem_mergeSort, diagnostics_lint, List.mem_eraseDups]

theorem value_lintOnto (registry : Registry) (report : Sink) (unit : CompilationUnit) :
    (lintOnto registry report unit).value =
      report.acceptAll (lint registry unit).value.sorted := by
  have hrec : ∀ d ∈ (lint registry unit).value.sorted, d.isRecordable := fun d hd =>
    isRecordable_of_mem_emissions (mem_sorted_lint.mp hd)
  exact congrArg Prod.fst (Sink.extend_of_isRecordable hrec)

/-- The report on several units holds their sorted diagnostics, unit by unit. -/
theorem value_lintAll (registry : Registry) (units : List CompilationUnit) :
    (lintAll registry units).value =
      Sink.empty.acceptAll (units.flatMap fun unit => (lint registry unit).value.sorted) := by
  unfold lintAll
  rw [Logged.value_foldlM]
  exact Sink.foldl_eq_acceptAll (value_lintOnto registry) .empty units

/-- The report on units holds the emissions of each of them. -/
theorem mem_lintAll :
    d ∈ (lintAll registry units).value.diagnostics ↔
      ∃ unit ∈ units, d ∈ emissions ⟨unit, none⟩ registry.entries unit.roots := by
  rw [value_lintAll, Sink.coherent_empty.mem_acceptAll]
  simp [Sink.empty, List.mem_flatMap, mem_sorted_lint]

end Units

end TreeLint
