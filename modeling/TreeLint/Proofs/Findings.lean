import TreeLint.Proofs.Conditions
import TreeLint.Proofs.Settings

/-!
# What the built-in rules do at a node

Each built-in rule is given by a function for its findings. All that the rule does at a node can be
read off this function: what it reports, which conditions the reported nodes meet, and what it
notes, which are the chains of call sites that cannot be unwound. So every diagnostic of a session
goes back to a finding at a node of the unit.

## Main definitions

* `Rule.BuiltIn`: a built-in rule with the function for its findings

## Main results

* `Rule.BuiltIn.finds`, `Rule.BuiltIn.satisfies`, `Rule.BuiltIn.events_check`: what the rule reports
  and notes
* `exists_finding_of_mem_lintInto`: the finding behind a diagnostic of a session
* `cases_of_mem_lintInto`: who notes an event of a session
-/

namespace TreeLint

/-- A built-in rule with the function that gives its findings. -/
inductive Rule.BuiltIn : Rule → (CompilationUnit → Node → Option (List Finding)) → Prop
  | uncheckedRegion : BuiltIn uncheckedRegion fun _ node => some (uncheckedFindings node)
  | indexing : BuiltIn indexing fun unit node => some (indexingFindings unit node)
  | panicProne : BuiltIn panicProne panicFindings
  | missingType : BuiltIn missingType fun _ node => some (missingTypeFindings node)

/-- What the context notes about a span is that its chain cannot be unwound. -/
theorem Context.component_of_mem_userSite {context : Context} {s : Span} {event : Event}
    (h : event ∈ (context.userSite s).events) : event.component = .span := by
  unfold userSite at h
  split at h
  · cases h
  · rw [List.mem_singleton.mp h]
    rfl

namespace Rule.BuiltIn

variable {rule : Rule} {findings : CompilationUnit → Node → Option (List Finding)}

theorem finds (h : rule.BuiltIn findings) : rule.Finds findings := by
  cases h with
  | uncheckedRegion => exact finds_ofFindings _ _ _
  | indexing => exact finds_ofFindings _ _ _
  | panicProne => exact finds_panicProne
  | missingType => exact finds_ofFindings _ _ _

/-- A finding of a built-in rule meets the rule's condition in its category. -/
theorem satisfies (h : rule.BuiltIn findings) {unit : CompilationUnit} {node : Node} {f : Finding}
    (hf : f ∈ (findings unit node).getD []) : Satisfies unit node rule.id f.category := by
  cases h with
  | uncheckedRegion =>
    exact .inl ⟨rfl, mem_categories_uncheckedFindings.mp (List.mem_map_of_mem hf)⟩
  | indexing =>
    exact .inr (.inl ⟨rfl, mem_categories_indexingFindings.mp (List.mem_map_of_mem hf)⟩)
  | panicProne =>
    refine .inr (.inr (.inl ⟨rfl, mem_categories_panicFindings.mp ?_⟩))
    cases hfs : panicFindings unit node with
    | none => simp [hfs] at hf
    | some fs => exact ⟨fs, rfl, List.mem_map_of_mem (by simpa [hfs] using hf)⟩
  | missingType =>
    exact .inr (.inr (.inr ⟨rfl, mem_categories_missingTypeFindings.mp (List.mem_map_of_mem hf)⟩))

/-- A built-in rule notes what unwinding the spans of its findings notes. -/
theorem events_check (h : rule.BuiltIn findings) (context : Context) (node : Node) :
    (rule.check context node).events =
      ((findings context.unit node).getD []).flatMap fun f => (context.userSite f.span).events := by
  have hreport : ∀ (id : String) (severity : Severity) (f : Finding),
      (context.report id severity f).events = (context.userSite f.span).events :=
    fun _ _ _ => List.append_nil _
  cases h with
  | panicProne =>
    simp only [TreeLint.panicProne]
    cases panicFindings context.unit node with
    | none => rfl
    | some fs => simp [hreport]
  | uncheckedRegion => simp [TreeLint.uncheckedRegion, ofFindings, hreport]
  | indexing => simp [TreeLint.indexing, ofFindings, hreport]
  | missingType => simp [TreeLint.missingType, ofFindings, hreport]

theorem component_of_mem_check (h : rule.BuiltIn findings) {context : Context} {node : Node}
    {event : Event} (hevent : event ∈ (rule.check context node).events) :
    event.component = .span := by
  rw [h.events_check, List.mem_flatMap] at hevent
  obtain ⟨f, -, hevent⟩ := hevent
  exact Context.component_of_mem_userSite hevent

end Rule.BuiltIn

/-! ## Sessions -/

section Session

variable {config : Document} {registry : Registry} {unit : CompilationUnit}
  {maxDepth : Option Int} {d : Diagnostic}

/-- The rules that a configuration document registers are built-in ones. -/
theorem exists_builtIn_of_mem_entries (h : (Registry.ofDocument config).value = .ok registry)
    {e : Entry} (he : e ∈ registry.entries) : ∃ findings, e.rule.BuiltIn findings := by
  rw [Registry.entries_of_ofDocument h] at he
  obtain ⟨rule, hrule, he⟩ := List.mem_filterMap.mp he
  obtain ⟨-, rfl⟩ := Config.applied?_eq_some_iff.mp he
  simp only [builtinRules, List.mem_cons, List.not_mem_nil, or_false] at hrule
  rcases hrule with rfl | rfl | rfl | rfl
  · exact ⟨_, .uncheckedRegion⟩
  · exact ⟨_, .indexing⟩
  · exact ⟨_, .panicProne⟩
  · exact ⟨_, .missingType⟩

/-- A session records the first occurrences of the emissions of its unit. -/
theorem diagnostics_lintInto (registry : Registry) (unit : CompilationUnit)
    (maxDepth : Option Int) :
    (lintInto ⟨unit, maxDepth⟩ registry .empty).value.diagnostics =
      (emissions ⟨unit, maxDepth⟩ registry.entries unit.roots).eraseDups := by
  have hvalue := value_traverse ⟨unit, maxDepth⟩ registry.entries unit.roots .empty
  have hlint : (lintInto ⟨unit, maxDepth⟩ registry .empty).value =
      (traverse ⟨unit, maxDepth⟩ registry.entries unit.roots .empty).value := rfl
  rw [hlint, hvalue, Sink.coherent_empty.diagnostics_acceptAll]
  rfl

/-- Every diagnostic of a session is there for a finding of a built-in rule at a node of the unit,
at the user-visible site of the finding. -/
theorem exists_finding_of_mem_lintInto (h : (Registry.ofDocument config).value = .ok registry)
    (hd : d ∈ (lintInto ⟨unit, maxDepth⟩ registry .empty).value.diagnostics) :
    ∃ position node rule findings f, nodeAt? unit.roots position = some node ∧
      Rule.BuiltIn rule findings ∧ f ∈ (findings unit node).getD [] ∧ d.rule = rule.id ∧
      d.category = .named f.category ∧
      d.span = (Context.userSite ⟨unit, maxDepth⟩ f.span).value.plain := by
  rw [diagnostics_lintInto, List.mem_eraseDups] at hd
  obtain ⟨node, hnode, hd⟩ := List.mem_flatMap.mp hd
  obtain ⟨e, he, hd⟩ := List.mem_flatMap.mp hd
  rw [← walk_eq_flatMap] at hnode
  obtain ⟨position, hposition⟩ := mem_walk.mp hnode
  obtain ⟨findings, hbuiltIn⟩ := exists_builtIn_of_mem_entries h he
  rw [Entry.emission_of_finds hbuiltIn.finds] at hd
  obtain ⟨f, hf, rfl⟩ := List.mem_map.mp hd
  exact ⟨position, node, e.rule, findings, f, hposition, hbuiltIn, (List.mem_filter.mp hf).1, rfl,
    rfl, rfl⟩

/-- An event of a session is the walker's own, or what a rule noted at a node, or says at the end
that the unit was linted. -/
theorem cases_of_mem_lintInto {sink : Sink} {event : Event}
    (h : event ∈ (lintInto ⟨unit, maxDepth⟩ registry sink).events) :
    event.component = .walker ∨
      (∃ e ∈ registry.entries, ∃ node, event ∈ (e.rule.check ⟨unit, maxDepth⟩ node).events) ∨
      ∃ rules diagnostics, event = .unitLinted unit.name rules diagnostics := by
  rcases List.mem_append.mp h with htraverse | hlinted
  · rw [events_traverse] at htraverse
    obtain ⟨node, -, hnode⟩ := List.mem_flatMap.mp htraverse
    rcases List.mem_append.mp hnode with hoffers | hskipped
    · obtain ⟨e, he, hoffer⟩ := List.mem_flatMap.mp hoffers
      rcases List.mem_append.mp hoffer with hnoted | hfault
      · exact .inr (.inl ⟨e, he, node, hnoted⟩)
      · exact .inl (Entry.component_of_mem_fault? (Option.mem_toList.mp hfault))
    · left
      unfold skippedChildren at hskipped
      split at hskipped
      · rw [List.mem_singleton.mp hskipped]
        rfl
      · cases hskipped
  · exact .inr (.inr ⟨_, _, List.mem_singleton.mp hlinted⟩)

end Session

end TreeLint
