import TreeLint.Proofs.Emission

/-!
# The conditions of the built-in rules

What the built-in rules look for, said without the functions that look for it: by each rule, the
nodes that it objects to, with the category of the objection. A rule reports a node in a category if
and only if the node meets the condition of that category.

## Main definitions

* `UncheckedAt`, `IndexedAt`, `PanicsAt`, `UntypedAt`: the conditions of the four rules
* `Satisfies`: the conditions of all built-in rules by their ids
* `Rule.Finds`: a rule that reports the findings of a function

## Main results

* `mem_categories_uncheckedFindings` and its kin: findings are nodes that meet the conditions
* `exists_finds_of_mem_builtinRules`: every built-in rule reports its findings and nothing else
-/

namespace TreeLint

/-! ## The conditions -/

/-- A node exempts itself from the safety checks: a block by its user, a function, a trait or the
implementation of a trait. -/
inductive UncheckedAt : Node → String → Prop
  | block {b : Block} (hmode : b.mode = .uncheckedByUser) :
      UncheckedAt (.expr (.block b)) "block"
  | function {name : String} {span : Span} {params : List Param} {body : Option Block} :
      UncheckedAt (.item (.function name span .unchecked params body)) "function"
  | trait {name : String} {span : Span} {items : List Item} :
      UncheckedAt (.item (.trait name span .unchecked items)) "trait"
  | implementation {selfType : String} {span : Span} {ofTrait : TraitRef} {items : List Item} :
      UncheckedAt (.item (.implementation selfType span (some ofTrait) .unchecked items)) "impl"

/-- A node slices, indexes, or implements one of the two traits for indexing. -/
inductive IndexedAt (unit : CompilationUnit) : Node → String → Prop
  | slicing {target : Expr} {span rangeSpan : Span} {start stop : Option Expr} {inclusive : Bool} :
      IndexedAt unit (.expr (.index target (.range rangeSpan start stop inclusive) span)) "slicing"
  | indexing {target operand : Expr} {span : Span}
      (hoperand : ∀ rangeSpan start stop inclusive,
        operand ≠ .range rangeSpan start stop inclusive) :
      IndexedAt unit (.expr (.index target operand span)) "indexing"
  | implementation {selfType : String} {span : Span} {ofTrait : TraitRef} {safety : Safety}
      {items : List Item} (item : LangItem)
      (hdef : ofTrait.defId = .str (unit.langItems.get item)) :
      IndexedAt unit (.item (.implementation selfType span (some ofTrait) safety items))
        "index_impl"

/-- A path names a backend: the backend's signature occurs in it, and no signature that comes
earlier in the table does. -/
def PanicBackend.Named (path : String) (backend : PanicBackend) : Prop :=
  ∃ earlier signature later, signatures = earlier ++ (signature, backend) :: later ∧
    signature.toList <:+: path.toList ∧
    ∀ entry ∈ earlier, ¬ entry.1.toList <:+: path.toList

/-- A node calls an accessor that may panic, or something that resolves to a panic backend. -/
inductive PanicsAt (unit : CompilationUnit) : Node → String → Prop
  | accessor {receiver : Expr} {method : String} {args : List Expr} {span : Span}
      (hmethod : method ∈ ["unwrap", "expect", "unwrap_err", "expect_err"]) :
      PanicsAt unit (.expr (.methodCall receiver method args span)) method
  | backend {segments : List String} {pathSpan span : Span} {id path : String}
      {args : List Expr} {backend : PanicBackend} (hdef : unit.definitions.lookup id = some path)
      (hnamed : PanicBackend.Named path backend) :
      PanicsAt unit (.expr (.call (.path segments pathSpan (.str id)) args span)) backend.name

/-- The type of a parameter is not written: its span is absent, empty or that of the pattern. -/
def Param.Untyped (p : Param) : Prop :=
  p.typeSpan = none ∨ ∃ span, p.typeSpan = some span ∧
    ((span.region.line = span.region.endLine ∧ span.region.column = span.region.endColumn) ∨
      span = p.pattern.span)

/-- A node binds a pattern without a written type: a binding that the user wrote, or a parameter of
a closure that is no coroutine and does not come from a macro. -/
inductive UntypedAt : Node → String → Prop
  | binding {pattern : Pattern} {span : Span} {init : Option Expr} {otherwise : Option Block}
      (hpattern : pattern.kind ≠ .wild) (horigin : span.origin = .direct) :
      UntypedAt (.stmt (.binding pattern span none init otherwise)) "let_binding"
  | param {params : List Param} {body : Expr} {span : Span} {kind : ClosureKind} {p : Param}
      (horigin : ∀ site macroName, span.origin ≠ .expansion site macroName)
      (hkind : kind ≠ .coroutine) (hp : p ∈ params) (hpattern : p.pattern.kind ≠ .wild)
      (htype : p.Untyped) :
      UntypedAt (.expr (.closure params body span kind)) "closure_param"

/-- A node meets the condition of a built-in rule in a category. -/
def Satisfies (unit : CompilationUnit) (node : Node) (rule category : String) : Prop :=
  (rule = "security_unsafe_usage" ∧ UncheckedAt node category) ∨
  (rule = "security_indexing_usage" ∧ IndexedAt unit node category) ∨
  (rule = "security_panic_usage" ∧ PanicsAt unit node category) ∨
  (rule = "missing_type" ∧ UntypedAt node category)

/-! ## Findings meet the conditions -/

/-- The rule for unchecked code reports exactly the nodes that are marked as unchecked. -/
theorem mem_categories_uncheckedFindings {node : Node} {category : String} :
    category ∈ (uncheckedFindings node).map Finding.category ↔ UncheckedAt node category := by
  constructor
  · intro h
    unfold uncheckedFindings at h
    split at h
    · split at h
      · obtain rfl : category = "block" := by simpa using h
        exact .block ‹_›
      · simp at h
    · obtain rfl : category = "function" := by simpa using h
      exact .function
    · obtain rfl : category = "trait" := by simpa using h
      exact .trait
    · obtain rfl : category = "impl" := by simpa using h
      exact .implementation
    · simp at h
  · intro h
    cases h with
    | block hmode => simp [uncheckedFindings, hmode]
    | function => simp [uncheckedFindings]
    | trait => simp [uncheckedFindings]
    | implementation => simp [uncheckedFindings]

theorem langItem?_isSome_iff {unit : CompilationUnit} {d : Document} :
    (unit.langItem? d).isSome ↔ ∃ item, d = .str (unit.langItems.get item) := by
  constructor
  · intro h
    unfold CompilationUnit.langItem? at h
    split at h
    · split at h
      · exact ⟨.index, by simp_all [LangItems.get]⟩
      · split at h
        · exact ⟨.indexMut, by simp_all [LangItems.get]⟩
        · simp at h
    · simp at h
  · rintro ⟨_ | _, rfl⟩
    · simp [CompilationUnit.langItem?, LangItems.get]
    · simp only [CompilationUnit.langItem?, LangItems.get]
      split <;> simp

/-- An index is reported under the category that its operand decides. -/
theorem category_indexUse {unit : CompilationUnit} {target operand : Expr} {span : Span}
    {category : String} :
    category = (indexUse operand).1 ↔
      IndexedAt unit (.expr (.index target operand span)) category := by
  constructor
  · rintro rfl
    unfold indexUse
    split
    · exact .slicing
    · rename_i hoperand
      exact .indexing hoperand
  · intro h
    cases h with
    | slicing => rfl
    | indexing hoperand =>
      unfold indexUse
      split
      · exact absurd rfl (hoperand _ _ _ _)
      · rfl

/-- The rule for indexing reports exactly the index expressions and the implementations of an
indexing trait. -/
theorem mem_categories_indexingFindings {unit : CompilationUnit} {node : Node}
    {category : String} :
    category ∈ (indexingFindings unit node).map Finding.category ↔
      IndexedAt unit node category := by
  constructor
  · intro h
    unfold indexingFindings at h
    split at h
    · exact category_indexUse.mp (by simpa using h)
    · split at h
      · rename_i hitem
        obtain ⟨item, hdef⟩ := langItem?_isSome_iff.mp hitem
        obtain rfl : category = "index_impl" := by simpa using h
        exact .implementation item hdef
      · simp at h
    · simp at h
  · intro h
    cases h with
    | slicing => simp [indexingFindings, indexUse]
    | @indexing target operand span hoperand =>
      have h : IndexedAt unit (.expr (.index target operand span)) "indexing" := .indexing hoperand
      simpa [indexingFindings] using category_indexUse.mpr h
    | implementation item hdef =>
      have hitem := langItem?_isSome_iff.mpr ⟨item, hdef⟩
      simp [indexingFindings, hitem]

/-- A path belongs to the backend of the first signature in the table that occurs in it. -/
theorem PanicBackend.ofPath?_eq_some_iff {path : String} {backend : PanicBackend} :
    ofPath? path = some backend ↔ Named path backend := by
  have habsent : ∀ signature : String, Text.occursIn signature.toList path.toList = false ↔
      ¬ signature.toList <:+: path.toList := by
    intro signature
    rw [← Text.occursIn_iff_isInfix, Bool.not_eq_true]
  simp only [ofPath?, Named, Option.map_eq_some_iff, List.find?_eq_some_iff_append,
    Text.occursIn_iff_isInfix, Bool.not_eq_true', habsent]
  constructor
  · rintro ⟨⟨signature, _⟩, ⟨hoccurs, earlier, later, htable, hearlier⟩, rfl⟩
    exact ⟨earlier, signature, later, htable, hoccurs, hearlier⟩
  · rintro ⟨earlier, signature, later, htable, hoccurs, hearlier⟩
    exact ⟨(signature, backend), ⟨hoccurs, earlier, later, htable, hearlier⟩, rfl⟩

/-- An accessor is told by its name, which is also its category. -/
theorem Accessor.map_name_ofMethod? (method : String) :
    (ofMethod? method).map name =
      if method ∈ ["unwrap", "expect", "unwrap_err", "expect_err"] then some method else none := by
  split
  case isTrue h =>
    simp only [List.mem_cons, List.not_mem_nil, or_false] at h
    rcases h with rfl | rfl | rfl | rfl <;> rfl
  case isFalse h =>
    rw [Option.map_eq_none_iff]
    refine List.find?_eq_none.mpr fun a _ ha => h ?_
    rw [← eq_of_beq ha]
    cases a <;> simp [Vocabulary.spelling, name]

/-- Four methods are reported, each under its own name. -/
theorem mem_categories_accessorFinding? {span : Span} {method category : String} :
    category ∈ (accessorFinding? span method).toList.map Finding.category ↔
      method ∈ ["unwrap", "expect", "unwrap_err", "expect_err"] ∧ category = method := by
  have hmap : (accessorFinding? span method).map Finding.category =
      (Accessor.ofMethod? method).map Accessor.name := by
    simp [accessorFinding?, Function.comp_def, panicFinding]
  rw [← Option.toList_map, hmap, Accessor.map_name_ofMethod?]
  split
  case isTrue h => simp [h]
  case isFalse h => simp [h]

theorem mem_categories_backendFinding? {span : Span} {path category : String} :
    category ∈ (backendFinding? span path).toList.map Finding.category ↔
      ∃ backend, PanicBackend.Named path backend ∧ category = backend.name := by
  have hmap : (backendFinding? span path).map Finding.category =
      (PanicBackend.ofPath? path).map PanicBackend.name := by
    simp [backendFinding?, Function.comp_def, panicFinding]
  rw [← Option.toList_map, hmap, Option.mem_toList, Option.map_eq_some_iff]
  simp only [PanicBackend.ofPath?_eq_some_iff]
  exact exists_congr fun backend => and_congr_right fun _ => eq_comm

theorem resolve_eq_path_iff {unit : CompilationUnit} {d : Document} {path : String} :
    unit.resolve d = .path path ↔ ∃ id, d = .str id ∧ unit.definitions.lookup id = some path := by
  cases d with
  | str id =>
    simp only [CompilationUnit.resolve]
    cases hdef : unit.definitions.lookup id <;> simp [hdef]
  | _ => simp [CompilationUnit.resolve]

/-- Where the definition id of a callee cannot be looked up, the rule fails and no condition
holds. -/
theorem mem_categories_panicFindings {unit : CompilationUnit} {node : Node} {category : String} :
    (∃ findings, panicFindings unit node = some findings ∧
      category ∈ findings.map Finding.category) ↔ PanicsAt unit node category := by
  constructor
  · rintro ⟨findings, hfindings, h⟩
    unfold panicFindings at hfindings
    split at hfindings
    · obtain rfl := Option.some.inj hfindings
      obtain ⟨hmethod, rfl⟩ := mem_categories_accessorFinding?.mp h
      exact .accessor hmethod
    · split at hfindings
      · rename_i path hpath
        obtain ⟨id, rfl, hdef⟩ := resolve_eq_path_iff.mp hpath
        obtain rfl := Option.some.inj hfindings
        obtain ⟨backend, hnamed, rfl⟩ := mem_categories_backendFinding?.mp h
        exact .backend hdef hnamed
      · obtain rfl := Option.some.inj hfindings
        simp at h
      · cases hfindings
    · obtain rfl := Option.some.inj hfindings
      simp at h
  · intro h
    cases h with
    | accessor hmethod => exact ⟨_, rfl, mem_categories_accessorFinding?.mpr ⟨hmethod, rfl⟩⟩
    | @backend _ _ span _ path _ backend hdef hnamed =>
      refine ⟨(backendFinding? span path).toList, ?_, ?_⟩
      · simp [panicFindings, CompilationUnit.resolve, hdef]
      · exact mem_categories_backendFinding?.mpr ⟨backend, hnamed, rfl⟩

theorem Origin.kind_beq_direct {σ : Type} {o : Origin σ} :
    (o.kind == .direct) = true ↔ o = .direct := by
  cases o <;> simp [kind]

theorem Origin.isExpansion_iff {σ : Type} {o : Origin σ} :
    o.isExpansion ↔ ∃ site macroName, o = .expansion site macroName := by
  cases o <;> simp [isExpansion, kind]

/-- A parameter is taken for inferred exactly if its type is not written. -/
theorem Param.isInferred_iff {p : Param} : p.isInferred ↔ p.Untyped := by
  unfold isInferred Untyped
  split
  case h_1 h => simp [h]
  case h_2 span h => simp [h, Region.isEmpty]

theorem Pattern.not_isWild_iff {p : Pattern} : (!p.isWild) = true ↔ p.kind ≠ .wild := by
  simp [isWild]

/-- The rule for missing types reports exactly the patterns that are bound without a written
type. -/
theorem mem_categories_missingTypeFindings {node : Node} {category : String} :
    category ∈ (missingTypeFindings node).map Finding.category ↔ UntypedAt node category := by
  constructor
  · intro h
    unfold missingTypeFindings at h
    split at h
    · split at h
      · rename_i hcond
        simp only [Bool.and_eq_true, Pattern.not_isWild_iff, Origin.kind_beq_direct,
          Option.isNone_iff_eq_none] at hcond
        obtain ⟨⟨hpattern, horigin⟩, rfl⟩ := hcond
        obtain rfl : category = "let_binding" := by simpa [bindingFinding] using h
        exact .binding hpattern horigin
      · simp at h
    · split at h
      · simp at h
      · rename_i hcond
        simp only [Bool.or_eq_true, not_or, Origin.isExpansion_iff, not_exists, beq_iff_eq] at hcond
        obtain ⟨f, hf, rfl⟩ := List.mem_map.mp h
        obtain ⟨p, hp, rfl⟩ := List.mem_map.mp hf
        obtain ⟨hmem, huntyped⟩ := List.mem_filter.mp hp
        rw [Bool.and_eq_true, Pattern.not_isWild_iff, Param.isInferred_iff] at huntyped
        exact .param hcond.1 hcond.2 hmem huntyped.1 huntyped.2
    · simp at h
  · intro h
    cases h with
    | binding hpattern horigin =>
      simp [missingTypeFindings, bindingFinding, Pattern.isWild, hpattern, horigin, Origin.kind]
    | @param params body span kind p horigin hkind hp hpattern htype =>
      have hcond : ¬ (span.origin.isExpansion || kind == .coroutine) = true := by
        simp only [Bool.or_eq_true, not_or, Origin.isExpansion_iff, not_exists, beq_iff_eq]
        exact ⟨horigin, hkind⟩
      have huntyped : (!p.pattern.isWild && p.isInferred) = true := by
        rw [Bool.and_eq_true, Pattern.not_isWild_iff, Param.isInferred_iff]
        exact ⟨hpattern, htype⟩
      rw [missingTypeFindings, if_neg hcond, List.map_map]
      exact List.mem_map.mpr ⟨p, List.mem_filter.mpr ⟨hp, huntyped⟩, rfl⟩

/-! ## What the built-in rules report -/

/-- A finding as the diagnostic of a rule. -/
def Finding.diagnostic (context : Context) (rule : Rule) (f : Finding) : Diagnostic :=
  ⟨rule.id, rule.severity, (context.userSite f.span).value.plain, f.message, .named f.category⟩

namespace Rule

/-- The rule reports the findings of a function, and fails where there are none to give. -/
def Finds (rule : Rule) (findings : CompilationUnit → Node → Option (List Finding)) : Prop :=
  ∀ context node, (rule.check context node).value =
    match findings context.unit node with
    | some fs => .reported (fs.map (Finding.diagnostic context rule))
    | none => .failed

/-- A rule made from a function on nodes reports what the function finds, and never fails. -/
theorem finds_ofFindings (id : String) (severity : Severity)
    (findings : CompilationUnit → Node → List Finding) :
    (ofFindings id severity findings).Finds fun unit node => some (findings unit node) := by
  intro context node
  simp only [ofFindings, Logged.value_bind, Logged.value_mapM, Logged.value_pure]
  rfl

theorem finds_panicProne : panicProne.Finds panicFindings := by
  intro context node
  simp only [panicProne]
  cases panicFindings context.unit node with
  | none => rfl
  | some findings =>
    simp only [Logged.value_bind, Logged.value_mapM, Logged.value_pure]
    rfl

end Rule

/-- Every built-in rule reports findings, and these are the nodes that meet its conditions. -/
theorem exists_finds_of_mem_builtinRules {rule : Rule} (hrule : rule ∈ builtinRules) :
    ∃ findings, rule.Finds findings ∧ ∀ unit node category,
      (∃ fs, findings unit node = some fs ∧ category ∈ fs.map Finding.category) ↔
        Satisfies unit node rule.id category := by
  simp only [builtinRules, List.mem_cons, List.not_mem_nil, or_false] at hrule
  rcases hrule with rfl | rfl | rfl | rfl
  · refine ⟨_, Rule.finds_ofFindings _ _ _, fun unit node category => ?_⟩
    simp [Satisfies, uncheckedRegion, Rule.ofFindings, ← mem_categories_uncheckedFindings]
  · refine ⟨_, Rule.finds_ofFindings _ _ _, fun unit node category => ?_⟩
    simp [Satisfies, indexing, Rule.ofFindings, ← mem_categories_indexingFindings]
  · refine ⟨_, Rule.finds_panicProne, fun unit node category => ?_⟩
    simp [Satisfies, panicProne, ← mem_categories_panicFindings]
  · refine ⟨_, Rule.finds_ofFindings _ _ _, fun unit node category => ?_⟩
    simp [Satisfies, missingType, Rule.ofFindings, ← mem_categories_missingTypeFindings]

/-- What an entry makes of a finding of its rule. -/
def Entry.stamped (e : Entry) (context : Context) (f : Finding) : Diagnostic :=
  { f.diagnostic context e.rule with severity := e.severity }

/-- An entry contributes the findings of its rule outside the disabled categories, each with the
severity of the entry. -/
theorem Entry.emission_of_finds {e : Entry}
    {findings : CompilationUnit → Node → Option (List Finding)} (h : e.rule.Finds findings)
    (context : Context) (node : Node) :
    e.emission (e.rule.check context node).value =
      (((findings context.unit node).getD []).filter fun f =>
        !e.disabledCategories.contains f.category).map (e.stamped context) := by
  rw [h context node]
  cases findings context.unit node with
  | none => rfl
  | some fs =>
    -- The categories of findings are names, so no offer is spoilt and no list is cut.
    have hrec : ¬ ∃ d ∈ fs.map (Finding.diagnostic context e.rule), ¬ d.isRecordable := by
      rintro ⟨d, hd, hnot⟩
      obtain ⟨f, -, rfl⟩ := List.mem_map.mp hd
      exact hnot rfl
    have hstamp : ∀ f : Finding,
        e.restamp (f.diagnostic context e.rule) = e.stamped context f := by
      intro f
      unfold restamp stamped
      split
      case isTrue hsame => rw [hsame]; rfl
      case isFalse => rfl
    have hall : ∀ ds : List Finding,
        (ds.map (e.stamped context)).takeWhile Diagnostic.isRecordable =
          ds.map (e.stamped context) := by
      intro ds
      refine List.takeWhile_eq_self_iff.mpr fun d hd => ?_
      obtain ⟨f, -, rfl⟩ := List.mem_map.mp hd
      rfl
    rw [emission, if_neg fun h => hrec h.2, List.filter_map, List.map_map]
    simp only [Function.comp_def, hstamp]
    exact hall _

end TreeLint
