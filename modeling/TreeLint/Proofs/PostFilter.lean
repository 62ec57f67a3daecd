import Mathlib.Data.List.Basic
import TreeLint.Proofs.Conditions
import TreeLint.Proofs.Settings
import TreeLint.Proofs.StableSort

/-!
# Configuration after the fact

The settings of a configuration apply to the diagnostics of every offer, before duplicates are
dropped and the rest is sorted. They can as well be applied to the finished list: a configured run
gives what the run without configuration gives, without the diagnostics of disabled rules and
categories, and with the severities that are set.

## Main definitions

* `Config.keeps`: whether a configuration document keeps a diagnostic
* `Config.stamp`: a diagnostic with the severity that applies to its rule

## Main results

* `emissions_applied?`: the emissions of a configured run
* `sorted_lint_eq_filter_stamp`: configuration is a filter on the finished list
-/

namespace TreeLint

namespace Config

/-- Whether a configuration document keeps a diagnostic: it disables neither the rule nor the
category. -/
def keeps (config : Document) (d : Diagnostic) : Bool :=
  !disables config d.rule && !d.category.isAmong (disabledFor config d.rule)

/-- The diagnostic with the severity that applies to its rule. -/
def stamp (config : Document) (d : Diagnostic) : Diagnostic :=
  match builtinRules.find? fun rule => rule.id == d.rule with
  | some rule => { d with severity := severityFor config rule }
  | none => d

theorem find?_builtinRules {rule : Rule} (hrule : rule ∈ builtinRules) :
    (builtinRules.find? fun other => other.id == rule.id) = some rule := by
  simp only [builtinRules, List.mem_cons, List.not_mem_nil, or_false] at hrule
  rcases hrule with rfl | rfl | rfl | rfl <;> rfl

theorem stamp_of_mem {config : Document} {rule : Rule} (hrule : rule ∈ builtinRules)
    {d : Diagnostic} (hd : d.rule = rule.id) :
    stamp config d = { d with severity := severityFor config rule } := by
  rw [stamp, hd, find?_builtinRules hrule]

/-- A stamp changes the severity alone, which the order does not look at. -/
theorem compareSite_stamp (config : Document) (a b : Diagnostic) :
    Diagnostic.compareSite (stamp config a) (stamp config b) = Diagnostic.compareSite a b := by
  have hstamp : ∀ d, (stamp config d).rule = d.rule ∧ (stamp config d).span = d.span := by
    intro d
    unfold stamp
    split
    · exact ⟨rfl, rfl⟩
    · exact ⟨rfl, rfl⟩
  simp only [Diagnostic.compareSite, compareLex, compareOn, hstamp]

end Config

/-- The entry of a rule that nothing is configured for. -/
def Rule.plainEntry (rule : Rule) : Entry :=
  ⟨rule, rule.severity, []⟩

/-- The registry for no configuration: every built-in rule with its own severity. -/
def plainRegistry : Registry :=
  ⟨builtinRules.map Rule.plainEntry, []⟩

/-- The plain entry of a rule contributes its findings as they are. -/
theorem emission_plainEntry {rule : Rule}
    {findings : CompilationUnit → Node → Option (List Finding)} (h : rule.Finds findings)
    (context : Context) (node : Node) :
    rule.plainEntry.emission (rule.check context node).value =
      ((findings context.unit node).getD []).map (Finding.diagnostic context rule) := by
  refine (Entry.emission_of_finds (e := rule.plainEntry) h context node).trans ?_
  refine congrArg (List.map _) (List.filter_eq_self.mpr fun f _ => ?_)
  rfl

/-- The offer of a node to a configured rule contributes what the plain entry does, filtered and
stamped. -/
theorem emission_applied? (config : Document) {rule : Rule} (hrule : rule ∈ builtinRules)
    (context : Context) (node : Node) :
    ((Config.applied? config rule).toList.flatMap fun e =>
        e.emission (e.rule.check context node).value) =
      ((rule.plainEntry.emission (rule.check context node).value).filter
        (Config.keeps config)).map (Config.stamp config) := by
  obtain ⟨findings, hfinds, -⟩ := exists_finds_of_mem_builtinRules hrule
  rw [emission_plainEntry hfinds, List.filter_map, List.map_map]
  have hkeeps : ∀ f, Config.keeps config (Finding.diagnostic context rule f) =
      (!Config.disables config rule.id &&
        !(Config.disabledFor config rule.id).contains f.category) := fun _ => rfl
  have hstamp : ∀ f, Config.stamp config (Finding.diagnostic context rule f) =
      Entry.stamped ⟨rule, Config.severityFor config rule, Config.disabledFor config rule.id⟩
        context f := fun _ => Config.stamp_of_mem hrule rfl
  simp only [Function.comp_def, hkeeps, hstamp]
  unfold Config.applied?
  by_cases hoff : Config.disables config rule.id
  · simp [hoff]
  · rw [if_neg hoff, Option.toList_some, List.flatMap_singleton, Entry.emission_of_finds hfinds]
    simp [hoff]

/-- What a run without configuration emits is of a built-in rule and of its own severity. -/
theorem exists_rule_of_mem_emissions {context : Context} {roots : List Node} {d : Diagnostic}
    (hd : d ∈ emissions context (builtinRules.map Rule.plainEntry) roots) :
    ∃ rule ∈ builtinRules, d.rule = rule.id ∧ d.severity = rule.severity := by
  obtain ⟨node, -, hnode⟩ := List.mem_flatMap.mp hd
  obtain ⟨e, he, hd⟩ := List.mem_flatMap.mp hnode
  obtain ⟨rule, hrule, rfl⟩ := List.mem_map.mp he
  obtain ⟨findings, hfinds, -⟩ := exists_finds_of_mem_builtinRules hrule
  obtain ⟨f, -, rfl⟩ := List.mem_map.mp (emission_plainEntry hfinds context node ▸ hd)
  exact ⟨rule, hrule, rfl, rfl⟩

/-- Stamping merges no diagnostics of a run without configuration: the rule, which stays, tells the
severity that was replaced. -/
theorem stamp_inj_of_mem_emissions (config : Document) {context : Context} {roots : List Node}
    {a b : Diagnostic} (ha : a ∈ emissions context (builtinRules.map Rule.plainEntry) roots)
    (hb : b ∈ emissions context (builtinRules.map Rule.plainEntry) roots)
    (h : Config.stamp config a = Config.stamp config b) : a = b := by
  obtain ⟨rule, hrule, hida, hseva⟩ := exists_rule_of_mem_emissions ha
  obtain ⟨rule', hrule', hidb, hsevb⟩ := exists_rule_of_mem_emissions hb
  rw [Config.stamp_of_mem hrule hida, Config.stamp_of_mem hrule' hidb] at h
  obtain ⟨hrule_eq, -, hspan, hmessage, hcategory⟩ := Diagnostic.mk.inj h
  have hsame : rule = rule' := by
    rw [← Option.some_inj, ← Config.find?_builtinRules hrule, ← Config.find?_builtinRules hrule',
      ← hida, ← hidb, hrule_eq]
  have hseverity : a.severity = b.severity := by rw [hseva, hsevb, hsame]
  calc a = ⟨a.rule, a.severity, a.span, a.message, a.category⟩ := rfl
    _ = b := by rw [hrule_eq, hseverity, hspan, hmessage, hcategory]

/-- The emissions of a configured run are those of a run without configuration, filtered and
stamped. -/
theorem emissions_applied? (config : Document) (context : Context) (roots : List Node) :
    emissions context (builtinRules.filterMap (Config.applied? config)) roots =
      ((emissions context (builtinRules.map Rule.plainEntry) roots).filter
        (Config.keeps config)).map (Config.stamp config) := by
  simp only [emissions, List.filter_flatMap, List.map_flatMap, List.flatMap_map]
  refine List.flatMap_congr fun node _ => ?_
  rw [List.filterMap_eq_flatMap_toList, List.flatMap_assoc]
  exact List.flatMap_congr fun rule hrule => emission_applied? config hrule context node

/-- The recorded diagnostics of a configured run are those of a run without configuration, filtered
and stamped. -/
theorem diagnostics_lint_of_entries {config : Document} {registry plain : Registry}
    (hentries : registry.entries = builtinRules.filterMap (Config.applied? config))
    (hplain : plain.entries = builtinRules.map Rule.plainEntry) (unit : CompilationUnit) :
    (lint registry unit).value.diagnostics =
      ((lint plain unit).value.diagnostics.filter (Config.keeps config)).map
        (Config.stamp config) := by
  rw [diagnostics_lint, diagnostics_lint, hentries, hplain, emissions_applied?, eraseDups_map,
    eraseDups_filter]
  intro a ha b hb
  exact stamp_inj_of_mem_emissions config (List.mem_filter.mp ha).1 (List.mem_filter.mp hb).1

/-- **Configuration is a filter on the finished list.** With a configuration that is accepted, the
sorted diagnostics of a unit are those of the run without configuration, which is always accepted,
less the ones that are not kept, and with the severities that apply. -/
theorem sorted_lint_eq_filter_stamp {config : Document} {registry : Registry}
    (h : (Registry.ofDocument config).value = .ok registry) :
    ∃ plain, (Registry.ofDocument .null).value = .ok plain ∧
      ∀ unit : CompilationUnit, (lint registry unit).value.sorted =
        ((lint plain unit).value.sorted.filter (Config.keeps config)).map
          (Config.stamp config) := by
  refine ⟨plainRegistry, rfl, fun unit => ?_⟩
  refine Sink.sorted_of_diagnostics_eq (Config.compareSite_stamp config) ?_
  exact diagnostics_lint_of_entries (Registry.entries_of_ofDocument h) rfl unit

/-- A configuration that drops one rule and one category of another, and lowers its severity. -/
def relaxedConfig : Document :=
  .obj [("rules", .obj [
    ("missing_type", .bool false),
    ("security_unsafe_usage", .obj [
      ("severity", .str "warn"), ("disable_categories", .arr [.str "function"])])])]

/-- A line of the sample unit. -/
def sampleLine (line : Int) : Span :=
  .written ⟨"src/lib.rs", line, 1, line, 9⟩

/-- An unchecked function whose body has an accessor on an unchecked block, and the block again. -/
def uncheckedFunction : CompilationUnit :=
  let exempt : Expr := .block (.mk [] (sampleLine 4) none .uncheckedByUser (sampleLine 4))
  let accessor : Stmt :=
    .expr (.methodCall exempt "unwrap" [] (sampleLine 3)) (sampleLine 3) true
  let body : Block := .mk [accessor] (sampleLine 2) (some exempt) .checked (sampleLine 2)
  { name := "lib"
    items := [.function "run" (sampleLine 1) .unchecked [] (some body)]
    definitions := []
    langItems := {} }

/-- The function is dropped by its category, and the block, which is listed once, is a warning. -/
theorem sorted_lint_uncheckedFunction :
    ∃ registry, (Registry.ofDocument relaxedConfig).value = .ok registry ∧
      (lint registry uncheckedFunction).value.sorted =
        [⟨"security_panic_usage", .deny, sampleLine 3,
            "Call to panic backend `Unwrap` detected.", .named "unwrap"⟩,
          ⟨"security_unsafe_usage", .warn, sampleLine 4,
            "Usage of unsafe block detected.", .named "block"⟩] := by
  obtain ⟨registry, h⟩ : ∃ registry, (Registry.ofDocument relaxedConfig).value = .ok registry :=
    ⟨_, rfl⟩
  obtain ⟨plain, hplain, hsorted⟩ := sorted_lint_eq_filter_stamp h
  obtain rfl : plainRegistry = plain := Except.ok.inj hplain
  have hplainSorted : (lint plainRegistry uncheckedFunction).value.sorted =
      [⟨"security_unsafe_usage", .deny, sampleLine 1, "Unsafe function detected.",
          .named "function"⟩,
        ⟨"security_panic_usage", .deny, sampleLine 3,
          "Call to panic backend `Unwrap` detected.", .named "unwrap"⟩,
        ⟨"security_unsafe_usage", .deny, sampleLine 4,
          "Usage of unsafe block detected.", .named "block"⟩] := by
    refine Sink.sorted_of_pairwise ?_ (by decide +kernel)
    rw [diagnostics_lint]
    decide +kernel
  refine ⟨registry, h, ?_⟩
  rw [hsorted, hplainSorted]
  rfl

end TreeLint
