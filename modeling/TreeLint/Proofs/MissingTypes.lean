import TreeLint.Proofs.Isolation
import TreeLint.Proofs.PostFilter
import TreeLint.Proofs.Sites

/-!
# Missing type annotations are reported node by node

A run without configuration reports missing types for what can be read off each node alone: the
candidates of a node depend on its kind and on the fields that hold no nodes, never on what
surrounds it. So the reports are the first occurrences of the candidates in pre-order, and a binding
or closure that stops being a candidate, because its own span is no longer the user's, takes no
other candidate with it.

## Main definitions

* `Span.outermost`: the end of a chain of call sites
* `Node.untyped`, `untypedIn`: the candidates of a node, and of all nodes beneath some roots
* `Node.ownFields`: the fields of a node that hold no nodes
* `Node.Replaces`: one node of a tree is replaced by another
* `Node.Suppresses`: a binding or closure with an origin that is not reported

## Main results

* `filter_diagnostics_lint`: the reports of a run are the first occurrences of the candidates
* `Node.untyped_congr`: the candidates of a node depend on its own fields alone
* `Node.Replaces.untypedIn`: a replacement changes the candidates at one place
* `missing_types_are_first_candidates`: exact reports and local suppression
-/

namespace TreeLint

/-! ## The end of a chain of call sites -/

namespace Span

/-- The last span of the chain of call sites. -/
def outermost : Span → Span
  | .written r => .written r
  | .expanded _ _ site => site.outermost
  | .lowered r kind => .lowered r kind
  | .loweredAt _ _ site => site.outermost

theorem leads_outermost (s : Span) : ∃ k, Leads callSite s k s.outermost := by
  induction s with
  | written r => exact ⟨0, .done rfl⟩
  | lowered r kind => exact ⟨0, .done rfl⟩
  | expanded r name site ih =>
    obtain ⟨k, h⟩ := ih
    exact ⟨k + 1, .hop (callSite_eq_self_iff.not.mpr nofun) h⟩
  | loweredAt r kind site ih =>
    obtain ⟨k, h⟩ := ih
    exact ⟨k + 1, .hop (callSite_eq_self_iff.not.mpr nofun) h⟩

end Span

/-- Without a limit the user-visible site of a span is the end of its chain. -/
theorem Context.value_userSite_unlimited (unit : CompilationUnit) (s : Span) :
    (userSite ⟨unit, none⟩ s).value = s.outermost := by
  obtain ⟨k, h⟩ := s.leads_outermost
  rw [value_userSite h, if_pos (permits_none k)]

/-! ## Candidates -/

instance : DecidablePred Param.Untyped :=
  fun _ => decidable_of_iff _ Param.isInferred_iff

/-- The report that the type of a pattern is not written, at the end of the chain of its span. -/
def Pattern.untypedReport (p : Pattern) (message category : String) : Diagnostic :=
  ⟨"missing_type", .warn, p.span.outermost.plain, message, .named category⟩

/-- The candidates of a node: a binding that the user wrote without a type, or the parameters
without types of a closure that is neither a coroutine nor produced by a macro. A pattern that binds
nothing is no candidate. -/
def Node.untyped : Node → List Diagnostic
  | .stmt (.binding pattern span none _ _) =>
    if pattern.kind ≠ .wild ∧ span.origin = .direct then
      [pattern.untypedReport "Missing explicit type annotation on let binding." "let_binding"]
    else []
  | .expr (.closure params _ span kind) =>
    if kind ≠ .coroutine ∧ span.origin.kind ≠ .expansion then
      (params.filter fun p => p.pattern.kind ≠ .wild ∧ p.Untyped).map fun p =>
        p.pattern.untypedReport "Closure parameter missing explicit type annotation."
          "closure_param"
    else []
  | _ => []

/-- The candidates of all nodes beneath the roots, in pre-order. -/
def untypedIn (roots : List Node) : List Diagnostic :=
  (walk roots).flatMap Node.untyped

/-- The diagnostic of a binding stands at the outermost site of its pattern. -/
theorem bindingFinding_diagnostic (unit : CompilationUnit) (p : Pattern) :
    (bindingFinding p).diagnostic ⟨unit, none⟩ missingType =
      p.untypedReport "Missing explicit type annotation on let binding." "let_binding" := by
  rw [Finding.diagnostic, Context.value_userSite_unlimited]
  rfl

theorem paramFinding_diagnostic (unit : CompilationUnit) (p : Param) :
    (paramFinding p).diagnostic ⟨unit, none⟩ missingType =
      p.pattern.untypedReport "Closure parameter missing explicit type annotation."
        "closure_param" := by
  rw [Finding.diagnostic, Context.value_userSite_unlimited]
  rfl

/-- The rule finds the candidates of a node, in their order. -/
theorem map_diagnostic_missingTypeFindings (unit : CompilationUnit) (n : Node) :
    (missingTypeFindings n).map (Finding.diagnostic ⟨unit, none⟩ missingType) = n.untyped := by
  unfold missingTypeFindings
  split
  case h_1 pattern span type init otherwise =>
    have hcond : (!pattern.isWild && span.origin.kind == .direct && type.isNone) = true ↔
        (pattern.kind ≠ .wild ∧ span.origin = .direct) ∧ type = none := by
      rw [Bool.and_eq_true, Bool.and_eq_true, Pattern.not_isWild_iff, Origin.kind_beq_direct,
        Option.isNone_iff_eq_none]
    cases type with
    | none =>
      by_cases h : pattern.kind ≠ .wild ∧ span.origin = .direct
      · rw [if_pos (hcond.mpr ⟨h, rfl⟩), List.map_singleton, bindingFinding_diagnostic,
          Node.untyped, if_pos h]
      · rw [if_neg fun hc => h (hcond.mp hc).1, Node.untyped, if_neg h, List.map_nil]
    | some type => rw [if_neg fun hc => nomatch (hcond.mp hc).2]; rfl
  case h_2 params body span kind =>
    have hcond : (span.origin.isExpansion || kind == .coroutine) = true ↔
        ¬ (kind ≠ .coroutine ∧ span.origin.kind ≠ .expansion) := by
      rw [Bool.or_eq_true, Origin.isExpansion, beq_iff_eq, beq_iff_eq]
      tauto
    by_cases h : kind ≠ .coroutine ∧ span.origin.kind ≠ .expansion
    · have hparams : ∀ p : Param, (!p.pattern.isWild && p.isInferred) =
          decide (p.pattern.kind ≠ .wild ∧ p.Untyped) := by
        intro p
        rw [Bool.eq_iff_iff, Bool.and_eq_true, Pattern.not_isWild_iff, Param.isInferred_iff,
          decide_eq_true_iff]
      rw [if_neg fun hc => hcond.mp hc h, Node.untyped, if_pos h, List.map_map]
      simp only [hparams]
      exact List.map_congr_left fun p _ => paramFinding_diagnostic unit p
    · rw [if_pos (hcond.mpr h), Node.untyped, if_neg h, List.map_nil]
  case h_3 hbinding hclosure =>
    rw [List.map_nil, Node.untyped]
    · exact fun pattern span init otherwise => hbinding pattern span none init otherwise
    · exact hclosure

/-! ## A run without configuration -/

theorem nodup_ids_plainRegistry : plainRegistry.ids.Nodup := by
  decide +kernel

/-- The built-in rules label their diagnostics with their own ids. -/
theorem labelsOwn_of_mem_plainRegistry {e : Entry} (he : e ∈ plainRegistry.entries) :
    e.rule.LabelsOwn := by
  obtain ⟨rule, hrule, rfl⟩ := List.mem_map.mp he
  obtain ⟨findings, hfinds, -⟩ := exists_finds_of_mem_builtinRules hrule
  exact hfinds.labelsOwn

/-- What the rule alone contributes are the candidates of all nodes in pre-order. -/
theorem emissions_missingType (unit : CompilationUnit) (roots : List Node) :
    emissions ⟨unit, none⟩ [missingType.plainEntry] roots =
      untypedIn roots := by
  rw [emissions, untypedIn, walk_eq_flatMap]
  refine List.flatMap_congr fun n _ => ?_
  rw [List.flatMap_singleton, ← map_diagnostic_missingTypeFindings unit n]
  exact emission_plainEntry (Rule.finds_ofFindings _ _ _) ⟨unit, none⟩ n

/-- The missing types that a run reports are the first occurrences of the candidates. -/
theorem filter_diagnostics_lint (unit : CompilationUnit) :
    ((lint plainRegistry unit).value.diagnostics.filter fun d => d.rule == "missing_type") =
      (untypedIn unit.roots).eraseDups := by
  have he : plainRegistry.get? "missing_type" = some missingType.plainEntry := rfl
  -- Every rule labels its own reports, so picking a label picks what one rule contributes.
  rw [diagnostics_lint, ← eraseDups_filter,
    emissions_filter_rule nodup_ids_plainRegistry (fun _ => labelsOwn_of_mem_plainRegistry) he,
    emissions_missingType]

/-! ## Candidates depend on the node's own fields -/

/-- The candidates of a node come before those of the nodes that it holds. -/
theorem untypedIn_singleton (n : Node) : untypedIn [n] = n.untyped ++ untypedIn n.held := by
  rw [untypedIn, untypedIn, walk_eq_flatMap, walk_eq_flatMap, List.flatMap_singleton,
    Node.preorder_eq_held, List.flatMap_cons]

theorem untypedIn_append_cons (earlier later : List Node) (n : Node) :
    untypedIn (earlier ++ n :: later) = untypedIn earlier ++ untypedIn [n] ++ untypedIn later := by
  simp only [untypedIn, walk_eq_flatMap, List.flatMap_append, List.flatMap_cons,
    List.flatMap_nil, List.append_nil, List.append_assoc]

namespace Node

/-- The fields of a node that hold no nodes. -/
def ownFields (n : Node) : List FieldValue :=
  n.fields.filter fun v => v.nodes.isEmpty

/-- Only bindings and closures are reported for a missing type. -/
theorem untyped_of_kindName {n : Node} (hbinding : n.kindName ≠ "LetStmt")
    (hclosure : n.kindName ≠ "Closure") : n.untyped = [] := by
  unfold untyped
  split
  · exact absurd rfl hbinding
  · exact absurd rfl hclosure
  · rfl

theorem untyped_of_isForeign {n : Node} (h : n.isForeign) : n.untyped = [] := by
  obtain ⟨name, span, rfl | rfl | rfl⟩ := exists_of_isForeign h <;> rfl

/-- The own fields of a node tell whether it is foreign, since a sort holds no nodes. -/
theorem isForeign_eq_any_ownFields (n : Node) :
    n.isForeign = n.ownFields.any FieldValue.isSort := by
  have hsort : ∀ v : FieldValue, (v.nodes.isEmpty && v.isSort) = v.isSort := by
    intro v
    cases v <;> simp [FieldValue.nodes, FieldValue.isSort]
  rw [isForeign_eq_any, ownFields, List.any_filter]
  simp only [hsort]

/-- A node with the name of a binding is one, unless it is foreign. -/
theorem exists_of_kindName_binding {n : Node} (hn : n.isForeign = false)
    (h : n.kindName = "LetStmt") :
    ∃ pattern span type init otherwise,
      n = .stmt (.binding pattern span type init otherwise) := by
  rcases n with e | s | i
  · cases e <;> simp [kindName, Expr.kindName, isForeign] at h hn
  · cases s with
    | binding pattern span type init otherwise => exact ⟨_, _, _, _, _, rfl⟩
    | _ => simp [kindName, Stmt.kindName, isForeign] at h hn
  · cases i <;> simp [kindName, Item.kindName, isForeign] at h hn

/-- A node with the name of a closure is one, unless it is foreign. -/
theorem exists_of_kindName_closure {n : Node} (hn : n.isForeign = false)
    (h : n.kindName = "Closure") :
    ∃ params body span kind, n = .expr (.closure params body span kind) := by
  rcases n with e | s | i
  · cases e with
    | closure params body span kind => exact ⟨_, _, _, _, rfl⟩
    | _ => simp [kindName, Expr.kindName, isForeign] at h hn
  · cases s <;> simp [kindName, Stmt.kindName, isForeign] at h hn
  · cases i <;> simp [kindName, Item.kindName, isForeign] at h hn

/-- The candidates of a binding depend on its pattern, its span and its type. The initialiser and
the other branch are own fields only where they are absent. -/
theorem untyped_congr_binding {pattern pattern' : Pattern} {span span' : Span}
    {type type' : Option TypeRef} {init init' : Option Expr} {otherwise otherwise' : Option Block}
    (hown : ownFields (.stmt (.binding pattern span type init otherwise)) =
      ownFields (.stmt (.binding pattern' span' type' init' otherwise'))) :
    untyped (.stmt (.binding pattern span type init otherwise)) =
      untyped (.stmt (.binding pattern' span' type' init' otherwise')) := by
  simp only [ownFields, fields, Stmt.fields, FieldValue.nodes, List.isEmpty_nil,
    List.filter_cons_of_pos, List.cons.injEq, FieldValue.pattern.injEq, FieldValue.span.injEq,
    FieldValue.type?.injEq] at hown
  obtain ⟨rfl, rfl, rfl, -⟩ := hown
  cases type <;> rfl

/-- The candidates of a node depend on its kind and on the fields that hold no nodes. -/
theorem untyped_congr {n n' : Node} (hkind : n.kindName = n'.kindName)
    (hown : n.ownFields = n'.ownFields) : n.untyped = n'.untyped := by
  have hforeign : n.isForeign = n'.isForeign := by
    rw [isForeign_eq_any_ownFields, isForeign_eq_any_ownFields, hown]
  cases hn : n.isForeign with
  | true => rw [untyped_of_isForeign hn, untyped_of_isForeign (hforeign ▸ hn)]
  | false =>
    have hn' : n'.isForeign = false := hforeign ▸ hn
    by_cases hbinding : n.kindName = "LetStmt"
    · obtain ⟨pattern, span, type, init, otherwise, rfl⟩ := exists_of_kindName_binding hn hbinding
      obtain ⟨pattern', span', type', init', otherwise', rfl⟩ :=
        exists_of_kindName_binding hn' (hkind ▸ hbinding)
      exact untyped_congr_binding hown
    · by_cases hclosure : n.kindName = "Closure"
      · obtain ⟨params, body, span, kind, rfl⟩ := exists_of_kindName_closure hn hclosure
        obtain ⟨params', body', span', kind', rfl⟩ :=
          exists_of_kindName_closure hn' (hkind ▸ hclosure)
        have hsame : params = params' ∧ span = span' ∧ kind = kind' := by
          simpa [ownFields, fields, Expr.fields, FieldValue.nodes] using hown
        obtain ⟨rfl, rfl, rfl⟩ := hsame
        rfl
      · rw [untyped_of_kindName hbinding hclosure,
          untyped_of_kindName (hkind ▸ hbinding) (hkind ▸ hclosure)]

/-! ## Replacing one node of a tree -/

/-- The second tree is the first with one occurrence of a node, at any depth, replaced by another
node. All fields but the one on the way to the node stay as they are. -/
inductive Replaces (m m' : Node) : Node → Node → Prop
  | here : Replaces m m' m m'
  | inside {n n' c c' : Node} {earlier later : List FieldValue} {v v' : FieldValue}
      {before after : List Node} (hkind : n.kindName = n'.kindName)
      (hfields : n.fields = earlier ++ v :: later) (hfields' : n'.fields = earlier ++ v' :: later)
      (hnodes : v.nodes = before ++ c :: after) (hnodes' : v'.nodes = before ++ c' :: after)
      (hchild : Replaces m m' c c') : Replaces m m' n n'

theorem ownFields_of_fields {n c : Node} {earlier later : List FieldValue} {v : FieldValue}
    {before after : List Node} (hfields : n.fields = earlier ++ v :: later)
    (hnodes : v.nodes = before ++ c :: after) :
    n.ownFields = (earlier ++ later).filter fun v => v.nodes.isEmpty := by
  rw [ownFields, hfields, List.filter_append, List.filter_append, List.filter_cons_of_neg]
  simp [hnodes]

/-- The nodes that a node holds are split where one of its fields is. -/
theorem held_of_fields {n c : Node} {earlier later : List FieldValue} {v : FieldValue}
    {before after : List Node} (hfields : n.fields = earlier ++ v :: later)
    (hnodes : v.nodes = before ++ c :: after) :
    n.held = (earlier.flatMap FieldValue.nodes ++ before) ++
      c :: (after ++ later.flatMap FieldValue.nodes) := by
  rw [held, hfields, List.flatMap_append, List.flatMap_cons, hnodes]
  simp

/-- A replacement changes the candidates of the tree where the node stands and nowhere else. -/
theorem Replaces.untypedIn {m m' n n' : Node} (h : Replaces m m' n n') :
    ∃ before after, untypedIn [n] = before ++ untypedIn [m] ++ after ∧
      untypedIn [n'] = before ++ untypedIn [m'] ++ after := by
  induction h with
  | here => exact ⟨[], [], by simp, by simp⟩
  | @inside n n' c c' earlier later v v' earlierNodes laterNodes hkind hfields hfields' hnodes
      hnodes' _ ih =>
    obtain ⟨before, after, hc, hc'⟩ := ih
    have hown : n.untyped = n'.untyped := by
      apply untyped_congr hkind
      rw [ownFields_of_fields hfields hnodes, ownFields_of_fields hfields' hnodes']
    refine ⟨n.untyped ++ TreeLint.untypedIn (earlier.flatMap FieldValue.nodes ++ earlierNodes) ++
        before,
      after ++ TreeLint.untypedIn (laterNodes ++ later.flatMap FieldValue.nodes), ?_, ?_⟩
    · rw [untypedIn_singleton, held_of_fields hfields hnodes, untypedIn_append_cons, hc]
      simp only [List.append_assoc]
    · rw [untypedIn_singleton, held_of_fields hfields' hnodes', untypedIn_append_cons, hc', hown]
      simp only [List.append_assoc]

/-- The second node is the first with another origin of its own span, for which it is not reported:
a binding that is not written by the user, or a closure from a macro. -/
inductive Suppresses : Node → Node → Prop
  | binding {pattern : Pattern} {span : Span} {type : Option TypeRef} {init : Option Expr}
      {otherwise : Option Block} {o : Origin Span} (ho : o ≠ .direct) :
      Suppresses (.stmt (.binding pattern span type init otherwise))
        (.stmt (.binding pattern (.ofOrigin span.region o) type init otherwise))
  | closure {params : List Param} {body : Expr} {span site : Span} {kind : ClosureKind}
      {macroName : String} :
      Suppresses (.expr (.closure params body span kind))
        (.expr (.closure params body (.ofOrigin span.region (.expansion site macroName)) kind))

namespace Suppresses

variable {m m' : Node}

theorem untyped_eq_nil (h : Suppresses m m') : m'.untyped = [] := by
  cases h with
  | @binding pattern span type init otherwise o ho =>
    cases type with
    | none => rw [untyped, if_neg fun hc => ho (Span.origin_ofOrigin _ o ▸ hc.2)]
    | some type => rfl
  | closure => rw [untyped, Span.origin_ofOrigin, if_neg fun hc => hc.2 rfl]

theorem children_eq (h : Suppresses m m') : m'.children = m.children := by
  cases h <;> rfl

end Suppresses

end Node

/-- **Missing types are reported node by node.** Without configuration every rule is registered, and
the missing types that linting any unit reports are the first occurrences, in the order of emission,
of the candidates of all nodes in pre-order. If the origin of one binding or closure in a tree
changes so that it is suppressed, the candidates of the tree are the same as before but for those of
that node itself: what its children contribute stays, at the same place. -/
theorem missing_types_are_first_candidates :
    (∃ registry, (Registry.ofDocument .null).value = .ok registry ∧ ∀ unit : CompilationUnit,
      ((lint registry unit).value.diagnostics.filter fun d => d.rule == "missing_type") =
        (untypedIn unit.roots).eraseDups) ∧
    ∀ (earlier later : List Node) (n n' m m' : Node), Node.Replaces m m' n n' →
      Node.Suppresses m m' → ∃ before after,
        untypedIn (earlier ++ n :: later) =
          before ++ m.untyped ++ untypedIn m.children ++ after ∧
        untypedIn (earlier ++ n' :: later) = before ++ untypedIn m.children ++ after := by
  refine ⟨⟨plainRegistry, rfl, filter_diagnostics_lint⟩, ?_⟩
  intro earlier later n n' m m' hreplaces hsuppresses
  obtain ⟨before, after, hn, hn'⟩ := hreplaces.untypedIn
  rw [untypedIn_singleton m, Node.held_eq_children] at hn
  rw [untypedIn_singleton m', Node.held_eq_children, hsuppresses.untyped_eq_nil,
    hsuppresses.children_eq, List.nil_append] at hn'
  refine ⟨untypedIn earlier ++ before, after ++ untypedIn later, ?_, ?_⟩
  · rw [untypedIn_append_cons, hn]
    simp only [List.append_assoc]
  · rw [untypedIn_append_cons, hn']
    simp only [List.append_assoc]

/-- A binding that is initialised with a closure; neither it nor the parameter has a type. -/
def closureBinding (span : Span) : Stmt :=
  let param : Param := ⟨.mk .binding (sampleLine 4) (.str "x") [], none⟩
  .binding (.mk .binding (sampleLine 3) (.str "f") []) span none
    (some (.closure [param] (.literal .null (sampleLine 5)) (sampleLine 4) .closure)) none

/-- A block with that binding. -/
def closureBlock (span : Span) : Expr :=
  .block (.mk [closureBinding span] (sampleLine 2) none .checked (sampleLine 2))

/-- When a macro produces the binding, the parameter of the closure inside is still reported. -/
theorem untypedIn_closureBlock :
    let param : Diagnostic := ⟨"missing_type", .warn, sampleLine 4,
      "Closure parameter missing explicit type annotation.", .named "closure_param"⟩
    let binding : Diagnostic := ⟨"missing_type", .warn, sampleLine 3,
      "Missing explicit type annotation on let binding.", .named "let_binding"⟩
    let made : Span := .expanded (sampleLine 3).region "define" (sampleLine 9)
    ∃ before after,
      untypedIn [.expr (closureBlock (sampleLine 3))] = before ++ [binding] ++ [param] ++ after ∧
      untypedIn [.expr (closureBlock made)] = before ++ [param] ++ after := by
  intro param binding made
  let m : Node := .stmt (closureBinding (sampleLine 3))
  let m' : Node := .stmt (closureBinding made)
  have hreplaces : Node.Replaces m m' (.expr (closureBlock (sampleLine 3)))
      (.expr (closureBlock made)) :=
    @Node.Replaces.inside _ _ _ _ _ _ [] _ (.stmts [closureBinding (sampleLine 3)])
      (.stmts [closureBinding made]) [] [] rfl rfl rfl rfl rfl .here
  have hsuppresses : Node.Suppresses m m' :=
    @Node.Suppresses.binding _ (sampleLine 3) _ _ _ (.expansion (sampleLine 9) "define") nofun
  have hchildren : untypedIn m.children = [param] := by
    rw [untypedIn, walk_eq_flatMap]
    rfl
  have hown : m.untyped = [binding] := rfl
  obtain ⟨before, after, h, h'⟩ :=
    missing_types_are_first_candidates.2 [] [] _ _ _ _ hreplaces hsuppresses
  exact ⟨before, after, hchildren ▸ hown ▸ h, hchildren ▸ h'⟩

end TreeLint
