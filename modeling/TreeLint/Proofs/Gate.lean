import TreeLint.Proofs.Conditions
import TreeLint.Proofs.Settings

/-!
# The gate

A run fails if and only if some unit holds a node, at any depth, that meets the condition of a
built-in rule which is not off, applies at the severity of denial, and does not have the category of
the condition disabled. What is denied is said by the conditions of the rules, the positions of the
trees and the configuration document alone.

## Main definitions

* `Denied`: there is something to deny in the units

## Main results

* `Entry.exists_deny_emission`: when an entry contributes a denied diagnostic
* `exitCode_lintAll_iff_denied`: the exit code is 2 if there is something to deny, and otherwise 0
-/

namespace TreeLint

/-- Some node of some unit meets the condition of a built-in rule, which the configuration document
leaves on and at the severity of denial, in a category that it leaves on too. -/
def Denied (config : Document) (units : List CompilationUnit) : Prop :=
  ∃ unit ∈ units, ∃ position node, nodeAt? unit.roots position = some node ∧
    ∃ rule ∈ builtinRules, Config.disables config rule.id = false ∧
      Config.severityFor config rule = .deny ∧
      ∃ category, Satisfies unit node rule.id category ∧
        category ∉ Config.disabledFor config rule.id

/-- An entry of a built-in rule contributes a denied diagnostic if it denies and the node meets the
rule's condition in a category that is not disabled. -/
theorem Entry.exists_deny_emission {e : Entry} (hrule : e.rule ∈ builtinRules)
    (context : Context) (node : Node) :
    (∃ d ∈ e.emission (e.rule.check context node).value, d.severity = .deny) ↔
      e.severity = .deny ∧ ∃ category, Satisfies context.unit node e.rule.id category ∧
        category ∉ e.disabledCategories := by
  obtain ⟨findings, hfinds, hcondition⟩ := exists_finds_of_mem_builtinRules hrule
  rw [emission_of_finds hfinds]
  simp only [← hcondition]
  constructor
  · rintro ⟨d, hd, hdeny⟩
    obtain ⟨f, hf, rfl⟩ := List.mem_map.mp hd
    obtain ⟨hmem, hkept⟩ := List.mem_filter.mp hf
    refine ⟨hdeny, f.category, ?_, by simpa using hkept⟩
    cases hfs : findings context.unit node with
    | none => simp [hfs] at hmem
    | some fs => exact ⟨fs, rfl, List.mem_map_of_mem (by simpa [hfs] using hmem)⟩
  · rintro ⟨hdeny, _, ⟨fs, hfs, hmem⟩, hkept⟩
    obtain ⟨f, hf, rfl⟩ := List.mem_map.mp hmem
    refine ⟨e.stamped context f, List.mem_map_of_mem (List.mem_filter.mpr ⟨?_, ?_⟩), hdeny⟩
    · simpa [hfs] using hf
    · simpa using hkept

/-- The denied diagnostics of a report are there for what is to deny. -/
theorem exists_deny_lintAll {config : Document} {registry : Registry}
    (h : (Registry.ofDocument config).value = .ok registry) (units : List CompilationUnit) :
    (∃ d ∈ (lintAll registry units).value.diagnostics, d.severity = .deny) ↔
      Denied config units := by
  have hentries := Registry.entries_of_ofDocument h
  constructor
  · rintro ⟨d, hd, hdeny⟩
    obtain ⟨unit, hunit, hd⟩ := mem_lintAll.mp hd
    obtain ⟨node, hnode, hd⟩ := List.mem_flatMap.mp hd
    obtain ⟨e, he, hd⟩ := List.mem_flatMap.mp hd
    rw [← walk_eq_flatMap] at hnode
    obtain ⟨position, hposition⟩ := mem_walk.mp hnode
    rw [hentries] at he
    obtain ⟨rule, hrule, he⟩ := List.mem_filterMap.mp he
    obtain ⟨hon, rfl⟩ := Config.applied?_eq_some_iff.mp he
    obtain ⟨hseverity, hcategory⟩ := (Entry.exists_deny_emission hrule _ _).mp ⟨d, hd, hdeny⟩
    exact ⟨unit, hunit, position, node, hposition, rule, hrule, hon, hseverity, hcategory⟩
  · rintro ⟨unit, hunit, position, node, hposition, rule, hrule, hon, hseverity, hcategory⟩
    obtain ⟨d, hd, hdeny⟩ := (Entry.exists_deny_emission
      (e := ⟨rule, Config.severityFor config rule, Config.disabledFor config rule.id⟩) hrule
      ⟨unit, none⟩ node).mpr ⟨hseverity, hcategory⟩
    refine ⟨d, mem_lintAll.mpr ⟨unit, hunit, List.mem_flatMap.mpr ⟨node, ?_, ?_⟩⟩, hdeny⟩
    · rw [← walk_eq_flatMap]
      exact mem_walk.mpr ⟨position, hposition⟩
    · refine List.mem_flatMap.mpr ⟨_, ?_, hd⟩
      rw [hentries]
      exact List.mem_filterMap.mpr ⟨rule, hrule, Config.applied?_eq_some_iff.mpr ⟨hon, rfl⟩⟩

/-- **The gate is sound and complete.** With a configuration that is accepted, the exit code of the
report on the units is 2 if and only if there is something to deny in them, and otherwise 0. -/
theorem exitCode_lintAll_iff_denied {config : Document} {registry : Registry}
    (h : (Registry.ofDocument config).value = .ok registry) (units : List CompilationUnit) :
    ((lintAll registry units).value.exitCode = 2 ↔ Denied config units) ∧
      (¬ Denied config units → (lintAll registry units).value.exitCode = 0) := by
  rw [Sink.exitCode_eq]
  constructor
  · rw [← exists_deny_lintAll h]
    split <;> simp_all
  · intro hnone
    exact if_neg ((exists_deny_lintAll h units).not.mpr hnone)

/-- A configuration that drops one rule and one category of another. -/
def narrowedConfig : Document :=
  .obj [("rules", .obj [
    ("security_panic_usage", .bool false),
    ("security_unsafe_usage", .obj [
      ("severity", .str " Deny"), ("disable_categories", .arr [.str "function"])])])]

/-- An unchecked block in a closure, in the body of a function of a submodule. -/
def nestedExemption : CompilationUnit :=
  let site : Span := .written ⟨"src/main.rs", 1, 1, 1, 9⟩
  let exempt : Expr := .block (.mk [] site none .uncheckedByUser site)
  let body : Block :=
    .mk [.expr (.closure [] exempt site .closure) site true] site none .checked site
  { name := "main"
    items := [.submodule "inner" site [.function "run" site .safe [] (some body)]]
    definitions := []
    langItems := {} }

/-- The unchecked block is found at its depth, and is denied in the category that is still on. -/
theorem exitCode_lintAll_nestedExemption :
    ∃ registry, (Registry.ofDocument narrowedConfig).value = .ok registry ∧
      (lintAll registry [nestedExemption]).value.exitCode = 2 := by
  obtain ⟨registry, h⟩ : ∃ registry, (Registry.ofDocument narrowedConfig).value = .ok registry :=
    ⟨_, rfl⟩
  refine ⟨registry, h, (exitCode_lintAll_iff_denied h _).1.mpr ?_⟩
  exact ⟨nestedExemption, List.mem_singleton_self _, [0, 0, 0, 0, 0, 0], _, rfl, uncheckedRegion,
    List.mem_cons_self, rfl, rfl, "block", .inl ⟨rfl, .block rfl⟩, by decide⟩

end TreeLint
