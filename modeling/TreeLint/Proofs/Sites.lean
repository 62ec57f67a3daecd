import Mathlib.Data.List.Basic
import TreeLint.Dump.Unit
import TreeLint.Proofs.Findings
import TreeLint.Proofs.Unwinding

/-!
# The sites of diagnostics

Every diagnostic of a session is reported at a plain region that the user can see. It is anchored at
a span of the tree, which is that of the node, or that of a pattern when a written type is missing.
The region is the one at which the chain of call sites of this span ends, through macros and
lowerings alike. Where the limit does not permit the hops of the chain, the span itself stands for
it, and this is noted.

## Main definitions

* `Anchors`: the span at which a rule anchors its report on a node
* `Diagnostic.IsAnchoredAt`: a diagnostic reports a node of a unit and is anchored at a span

## Main results

* `Rule.BuiltIn.anchors`: findings are anchored at the node or at a pattern of it
* `span_of_mem_lintInto`: the region of a diagnostic is the end of a chain, or its start
* `session_reports_user_sites`: the sites of all diagnostics of a session on a dump
-/

namespace TreeLint

/-! ## Anchors -/

/-- A rule anchors its report on a node at a span: that of the node or, when a written type is
missing, that of the pattern of a binding or of a closure parameter. -/
inductive Anchors : String → Node → Span → Prop
  | node {rule : String} {n : Node} (hrule : rule ≠ "missing_type") : Anchors rule n n.span
  | binding {pattern : Pattern} {span : Span} {init : Option Expr} {otherwise : Option Block} :
      Anchors "missing_type" (.stmt (.binding pattern span none init otherwise)) pattern.span
  | param {params : List Param} {body : Expr} {span : Span} {kind : ClosureKind} {p : Param}
      (hp : p ∈ params) (hpattern : p.pattern.kind ≠ .wild) (htype : p.Untyped) :
      Anchors "missing_type" (.expr (.closure params body span kind)) p.pattern.span

/-- A diagnostic reports a node of the unit, which meets the condition of its rule and category, and
is anchored at a span of that node. -/
def Diagnostic.IsAnchoredAt (unit : CompilationUnit) (d : Diagnostic) (s : Span) : Prop :=
  ∃ position node category, nodeAt? unit.roots position = some node ∧
    d.category = .named category ∧ Satisfies unit node d.rule category ∧ Anchors d.rule node s

theorem span_of_mem_uncheckedFindings {node : Node} {f : Finding}
    (hf : f ∈ uncheckedFindings node) : f.span = node.span := by
  unfold uncheckedFindings at hf
  split at hf
  · split at hf
    · rw [List.mem_singleton.mp hf]
      rfl
    · cases hf
  case h_5 => cases hf
  all_goals
    rw [List.mem_singleton.mp hf]
    rfl

theorem span_of_mem_indexingFindings {unit : CompilationUnit} {node : Node} {f : Finding}
    (hf : f ∈ indexingFindings unit node) : f.span = node.span := by
  unfold indexingFindings at hf
  split at hf
  · rw [List.mem_singleton.mp hf]
    rfl
  · split at hf
    · rw [List.mem_singleton.mp hf]
      rfl
    · cases hf
  · cases hf

theorem span_of_mem_panicFindings {unit : CompilationUnit} {node : Node} {f : Finding}
    (hf : f ∈ (panicFindings unit node).getD []) : f.span = node.span := by
  unfold panicFindings at hf
  split at hf
  · obtain ⟨accessor, -, rfl⟩ := Option.map_eq_some_iff.mp (Option.mem_toList.mp hf)
    rfl
  · split at hf
    · obtain ⟨backend, -, rfl⟩ := Option.map_eq_some_iff.mp (Option.mem_toList.mp hf)
      rfl
    · cases hf
    · cases hf
  · cases hf

/-- Missing types are reported at a pattern of the node. -/
theorem anchors_of_mem_missingTypeFindings {node : Node} {f : Finding}
    (hf : f ∈ missingTypeFindings node) : Anchors "missing_type" node f.span := by
  unfold missingTypeFindings at hf
  split at hf
  · split at hf
    · rename_i hcond
      obtain ⟨-, htype⟩ := Bool.and_eq_true_iff.mp hcond
      obtain rfl := Option.isNone_iff_eq_none.mp htype
      rw [List.mem_singleton.mp hf]
      exact .binding
    · cases hf
  · split at hf
    · cases hf
    · obtain ⟨p, hp, rfl⟩ := List.mem_map.mp hf
      obtain ⟨hmem, huntyped⟩ := List.mem_filter.mp hp
      rw [Bool.and_eq_true, Pattern.not_isWild_iff, Param.isInferred_iff] at huntyped
      exact .param hmem huntyped.1 huntyped.2
  · cases hf

/-- The findings of a built-in rule at a node are at the spans at which the rule anchors its
reports. -/
theorem Rule.BuiltIn.anchors {rule : Rule}
    {findings : CompilationUnit → Node → Option (List Finding)} (h : rule.BuiltIn findings)
    {unit : CompilationUnit} {node : Node} {f : Finding}
    (hf : f ∈ (findings unit node).getD []) : Anchors rule.id node f.span := by
  cases h with
  | uncheckedRegion =>
    rw [span_of_mem_uncheckedFindings hf]
    exact .node (by decide)
  | indexing =>
    rw [span_of_mem_indexingFindings hf]
    exact .node (by decide)
  | panicProne =>
    rw [span_of_mem_panicFindings hf]
    exact .node (by decide)
  | missingType => exact anchors_of_mem_missingTypeFindings hf

/-! ## Sites -/

section Site

variable {unit : CompilationUnit} {maxDepth : Option Int} {s last : Span} {k : Nat}

/-- The site of a span is the end of its chain, if the limit permits it, and the span itself
otherwise. -/
theorem Context.value_userSite (h : Leads Span.callSite s k last) :
    (userSite ⟨unit, maxDepth⟩ s).value = if Permits maxDepth k then last else s := by
  rw [← Span.fst_userSite h]
  unfold userSite
  split
  case h_1 hsite => rw [hsite]; rfl
  case h_2 hsite => rw [hsite]

theorem Context.events_userSite_of_permits (h : Leads Span.callSite s k last)
    (hpermits : Permits maxDepth k) : (userSite ⟨unit, maxDepth⟩ s).events = [] := by
  have hnone := Span.snd_userSite_of_permits h hpermits
  unfold userSite
  split
  · rfl
  · rename_i hsite
    rw [hsite] at hnone
    cases hnone

/-- Without a limit a built-in rule notes nothing, because every chain can be unwound. -/
theorem Rule.BuiltIn.events_check_unlimited {rule : Rule}
    {findings : CompilationUnit → Node → Option (List Finding)} (h : rule.BuiltIn findings)
    (node : Node) : (rule.check ⟨unit, none⟩ node).events = [] := by
  rw [h.events_check, List.flatMap_eq_nil_iff]
  intro f _
  obtain ⟨k, last, hleads⟩ := f.span.exists_leads
  exact Context.events_userSite_of_permits hleads (permits_none k)

end Site

section Session

variable {config : Document} {registry : Registry} {unit : CompilationUnit}
  {maxDepth : Option Int} {d : Diagnostic}

/-- A diagnostic of a session has the region at which the chain of its anchor ends, unless the limit
does not permit the hops of the chain. -/
theorem span_of_mem_lintInto (h : (Registry.ofDocument config).value = .ok registry)
    (hd : d ∈ (lintInto ⟨unit, maxDepth⟩ registry .empty).value.diagnostics) :
    ∃ s k last, d.IsAnchoredAt unit s ∧ Leads Span.callSite s k last ∧
      d.span = if Permits maxDepth k then last.plain else s.plain := by
  obtain ⟨position, node, rule, findings, f, hnode, hbuiltIn, hf, hrule, hcategory, hspan⟩ :=
    exists_finding_of_mem_lintInto h hd
  obtain ⟨k, last, hleads⟩ := f.span.exists_leads
  refine ⟨f.span, k, last, ⟨position, node, f.category, hnode, hcategory, ?_, ?_⟩, hleads, ?_⟩
  · rw [hrule]
    exact hbuiltIn.satisfies hf
  · rw [hrule]
    exact hbuiltIn.anchors hf
  · rw [hspan, Context.value_userSite hleads, apply_ite Span.plain]

/-- Without a limit no event of a session is about a chain of call sites. -/
theorem component_ne_span_of_mem_lintInto (h : (Registry.ofDocument config).value = .ok registry)
    {event : Event} (hevent : event ∈ (lintInto ⟨unit, none⟩ registry .empty).events) :
    event.component ≠ .span := by
  rcases cases_of_mem_lintInto hevent with hwalker | ⟨e, he, node, hnoted⟩ | ⟨_, _, rfl⟩
  · rw [hwalker]
    exact nofun
  · obtain ⟨findings, hbuiltIn⟩ := exists_builtIn_of_mem_entries h he
    rw [hbuiltIn.events_check_unlimited] at hnoted
    cases hnoted
  · exact nofun

end Session

/-- **Reports are at user-visible sites.** For every dump that can be read, every configuration that
is accepted and every limit, a diagnostic of a session has a span that the user wrote. It reports a
node of the unit and is anchored at a span of that node. Where the limit permits the hops of the
chain of this span, its region is that of the last span of the chain, and otherwise that of the
first.

No span that is read has a cyclic chain. Hence without a limit nothing is noted about chains, and no
diagnostic lies in a region that has a call site. -/
theorem session_reports_user_sites (file : String) (dump config : Document)
    (maxDepth : Option Int) {unit : CompilationUnit} {registry : Registry} :
    Dump.readUnit file dump = .ok unit → (Registry.ofDocument config).value = .ok registry →
    let session := lintInto ⟨unit, maxDepth⟩ registry .empty
    (∀ d ∈ session.value.diagnostics, d.span.origin = .direct ∧
      ∃ s k last, d.IsAnchoredAt unit s ∧ Leads Span.callSite s k last ∧
        d.span.region = if Permits maxDepth k then last.region else s.region) ∧
    (∀ inFile part s, (Dump.read inFile part).span = .ok s →
      ∀ limit site, s.unwind limit ≠ .error (.cyclic site)) ∧
    (maxDepth = none →
      (∀ event ∈ session.events, event.component ≠ .span) ∧
      ∀ d ∈ session.value.diagnostics, ∃ s k last, d.IsAnchoredAt unit s ∧
        Leads Span.callSite s k last ∧ last.origin.callSite? = none ∧
        d.span.region = last.region) := by
  -- A span holds its call site, so the chains of all units end, whatever dump they are read from.
  intro _ hregistry session
  refine ⟨fun d hd => ?_, fun _ _ s _ limit site => s.unwind_ne_cyclic limit site, ?_⟩
  · obtain ⟨s, k, last, hanchored, hleads, hspan⟩ := span_of_mem_lintInto hregistry hd
    refine ⟨?_, s, k, last, hanchored, hleads, ?_⟩
    · rw [hspan]
      split <;> rfl
    · rw [hspan]
      split <;> rfl
  · rintro rfl
    refine ⟨fun event => component_ne_span_of_mem_lintInto hregistry, fun d hd => ?_⟩
    obtain ⟨s, k, last, hanchored, hleads, hspan⟩ := span_of_mem_lintInto hregistry hd
    rw [if_pos (permits_none k)] at hspan
    refine ⟨s, k, last, hanchored, hleads, ?_, ?_⟩
    · exact Span.callSite_eq_self_iff.mp hleads.callSite_last
    · rw [hspan]
      rfl

/-- A dump with an unchecked function two hops away from what the user wrote, through a lowering and
a macro, and a closure parameter one hop away. -/
def layeredDump : Document :=
  let lowered : Document := .obj [("line", .int 5), ("column", .int 1),
    ("origin", .obj [("kind", .str "desugared"), ("desugaring", .str "for_loop"),
      ("call_site", .arr [.int 2, .int 3, .int 2, .int 9])])]
  let expanded : Document → Document := fun site => .obj [("line", .int 10), ("column", .int 1),
    ("origin", .obj [("kind", .str "macro"), ("call_site", site)])]
  let closure : Document := .obj [("kind", .str "closure"),
    ("span", .arr [.int 7, .int 1, .int 7, .int 9]),
    ("params", .arr [.obj [("pat", .obj [("name", .str "x"),
      ("span", expanded (.arr [.int 7, .int 2, .int 7, .int 3]))])]]),
    ("body", .obj [("kind", .str "lit"), ("span", .arr [.int 7, .int 4, .int 7, .int 9])])]
  .obj [("items", .arr [
    .obj [("kind", .str "fn"), ("name", .str "run"), ("unsafe", .bool true),
      ("span", expanded lowered)],
    .obj [("kind", .str "const"), ("name", .str "SUM"), ("value", closure),
      ("span", .arr [.int 7, .int 1, .int 7, .int 9])]])]

/-- The unit of the layered dump. -/
def layeredUnit : CompilationUnit where
  name := "lib"
  items :=
    let lowered : Span :=
      .loweredAt ⟨"lib.rs", 5, 1, 5, 1⟩ .forLoop (.written ⟨"lib.rs", 2, 3, 2, 9⟩)
    let expanded : Span → Span := .expanded ⟨"lib.rs", 10, 1, 10, 1⟩ ""
    let line : Span := .written ⟨"lib.rs", 7, 1, 7, 9⟩
    let pattern : Pattern :=
      .mk .binding (expanded (.written ⟨"lib.rs", 7, 2, 7, 3⟩)) (.str "x") []
    let body : Expr := .literal .null (.written ⟨"lib.rs", 7, 4, 7, 9⟩)
    [.function "run" (expanded lowered) .unchecked [] none,
      .constant "SUM" line none (some (.closure [⟨pattern, none⟩] body line .closure))]
  definitions := []
  langItems := {}

/-- With a limit of one hop the function is reported where the macro put it, and without a limit
where the user wrote it. The parameter is within the limit. -/
theorem session_reports_layeredDump :
    Dump.readUnit "lib.rs" layeredDump = .ok layeredUnit ∧
    ∃ registry, (Registry.ofDocument (.obj [])).value = .ok registry ∧
      (lintInto ⟨layeredUnit, some 1⟩ registry .empty).value.diagnostics.map (·.span) =
        [.written ⟨"lib.rs", 10, 1, 10, 1⟩, .written ⟨"lib.rs", 7, 2, 7, 3⟩] ∧
      (lintInto ⟨layeredUnit, none⟩ registry .empty).value.diagnostics.map (·.span) =
        [.written ⟨"lib.rs", 2, 3, 2, 9⟩, .written ⟨"lib.rs", 7, 2, 7, 3⟩] ∧
      (∀ d ∈ (lintInto ⟨layeredUnit, some 1⟩ registry .empty).value.diagnostics,
        ∃ s k last, d.IsAnchoredAt layeredUnit s ∧ Leads Span.callSite s k last ∧
          d.span.region = if Permits (some 1) k then last.region else s.region) ∧
      ∀ event ∈ (lintInto ⟨layeredUnit, none⟩ registry .empty).events,
        event.component ≠ .span := by
  have hunit : Dump.readUnit "lib.rs" layeredDump = .ok layeredUnit := rfl
  obtain ⟨registry, hregistry⟩ :
      ∃ registry, (Registry.ofDocument (.obj [])).value = .ok registry := ⟨_, rfl⟩
  have hlimited := session_reports_user_sites _ _ _ (some 1) hunit hregistry
  have hunlimited := session_reports_user_sites _ _ _ none hunit hregistry
  refine ⟨hunit, registry, hregistry, ?_, ?_, fun d hd => (hlimited.1 d hd).2,
    (hunlimited.2.2 rfl).1⟩
  · rw [diagnostics_lintInto, Registry.entries_of_ofDocument hregistry]
    decide +kernel
  · rw [diagnostics_lintInto, Registry.entries_of_ofDocument hregistry]
    decide +kernel

end TreeLint
