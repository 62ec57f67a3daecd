import Mathlib.Data.List.Basic
import TreeLint.Proofs.DumpFormat
import TreeLint.Proofs.Findings

/-!
# The faults of a session

The built-in rules are total on the trees of units, but for one case: a call to a path whose
definition id is an array or an object cannot be looked up, and the rule on calls that may panic
fails on it. Every other offer completes, and all that it reports can be recorded. A unit that is
read from a dump holds no foreign node, so the children of all its nodes are known.

## Main definitions

* `Node.callsCompound`: a call to a path whose definition id cannot be looked up
* `Entry.Completes`: an offer that completes

## Main results

* `Rule.BuiltIn.findings_eq_none_iff`: where a built-in rule fails
* `walkerEvents_lintInto`: the faults that a session notes, in order
* `session_faults_exactly`: what completes and what fails in a session on a dump
-/

namespace TreeLint

/-! ## Where the rules fail -/

/-- Whether a node is a call to a path whose definition id is an array or an object. -/
def Node.callsCompound : Node → Bool
  | .expr (.call (.path _ _ defId) _ _) => defId.isCompound
  | _ => false

theorem Node.kindName_of_callsCompound {node : Node} (h : node.callsCompound) :
    node.kindName = "Call" := by
  unfold callsCompound at h
  split at h
  · rfl
  · cases h

/-- Only compound documents cannot be looked up. -/
theorem resolve_eq_notAKey_iff {unit : CompilationUnit} {d : Document} :
    unit.resolve d = .notAKey ↔ d.isCompound := by
  cases d with
  | str id =>
    simp only [CompilationUnit.resolve, Document.isCompound]
    cases unit.definitions.lookup id <;> simp
  | _ => simp [CompilationUnit.resolve, Document.isCompound]

/-- The rule for panics fails exactly on calls of compound definition ids. -/
theorem panicFindings_eq_none_iff {unit : CompilationUnit} {node : Node} :
    panicFindings unit node = none ↔ node.callsCompound := by
  unfold panicFindings Node.callsCompound
  split
  · simp
  · rw [← @resolve_eq_notAKey_iff unit]
    split <;> simp_all
  · rename_i hcall
    split
    · exact absurd rfl (hcall _ _ _ _ _)
    · simp

/-- A built-in rule fails where it has no findings to give: the rule on calls that may panic does at
a call whose callee cannot be looked up, and no other rule anywhere. -/
theorem Rule.BuiltIn.findings_eq_none_iff {rule : Rule}
    {findings : CompilationUnit → Node → Option (List Finding)} (h : rule.BuiltIn findings)
    {unit : CompilationUnit} {node : Node} :
    findings unit node = none ↔ rule.id = "security_panic_usage" ∧ node.callsCompound := by
  cases h with
  | uncheckedRegion => exact iff_of_false nofun fun h => absurd h.1 (by decide)
  | indexing => exact iff_of_false nofun fun h => absurd h.1 (by decide)
  | panicProne => exact panicFindings_eq_none_iff.trans (and_iff_right rfl).symm
  | missingType => exact iff_of_false nofun fun h => absurd h.1 (by decide)

/-- Whether the rule of an entry fails on a node. -/
def Entry.failsOn (e : Entry) (node : Node) : Bool :=
  e.id == "security_panic_usage" && node.callsCompound

/-- An offer completes: the rule reports diagnostics, each of them can be recorded in every sink,
and so can what the entry makes of them. -/
def Entry.Completes (e : Entry) (context : Context) (node : Node) : Prop :=
  ∃ ds, (e.rule.check context node).value = .reported ds ∧
    (∀ d ∈ ds, ∀ sink : Sink, (sink.add d).isOk) ∧
    ∀ sink : Sink, (recordAll e ds sink).2 = .ok ()

section Offer

variable {e : Entry} {findings : CompilationUnit → Node → Option (List Finding)}

theorem Entry.value_check_of_failsOn (h : e.rule.BuiltIn findings) (context : Context)
    {node : Node} (hnode : e.failsOn node) : (e.rule.check context node).value = .failed := by
  have hnone : findings context.unit node = none := by
    rw [h.findings_eq_none_iff]
    simpa [failsOn, Entry.id] using hnode
  rw [h.finds, hnone]

theorem Entry.completes_of_not_failsOn (h : e.rule.BuiltIn findings) (context : Context)
    {node : Node} (hnode : ¬ e.failsOn node) : e.Completes context node := by
  have hsome : findings context.unit node ≠ none := by
    rw [Ne, h.findings_eq_none_iff]
    simpa [failsOn, Entry.id] using hnode
  obtain ⟨fs, hfs⟩ := Option.ne_none_iff_exists'.mp hsome
  have hrecordable : ∀ d ∈ fs.map (Finding.diagnostic context e.rule), d.isRecordable := by
    rw [List.forall_mem_map]
    exact fun f _ => rfl
  refine ⟨fs.map (Finding.diagnostic context e.rule), ?_, fun d hd sink => ?_, fun sink => ?_⟩
  · rw [h.finds, hfs]
  · rw [Sink.add_of_isRecordable (hrecordable d hd)]
    rfl
  · rw [Entry.recordAll_eq, if_neg]
    rintro ⟨d, hd, hnot⟩
    exact hnot (hrecordable d hd)

/-- The only fault of the built-in rules is that of the rule for panics on a call. -/
theorem Entry.fault?_of_builtIn (h : e.rule.BuiltIn findings) (context : Context) (node : Node) :
    (e.fault? node (e.rule.check context node).value).toList =
      if e.failsOn node then [.ruleFailed "security_panic_usage" "Call"] else [] := by
  by_cases hnode : e.failsOn node
  · obtain ⟨hid, hcalls⟩ : e.id = "security_panic_usage" ∧ node.callsCompound := by
      simpa [failsOn] using hnode
    rw [if_pos hnode, Entry.value_check_of_failsOn h context hnode, Entry.fault?, hid,
      Node.kindName_of_callsCompound hcalls]
    rfl
  · obtain ⟨ds, hvalue, hadd, -⟩ := Entry.completes_of_not_failsOn h context hnode
    rw [if_neg hnode, hvalue, Entry.fault?, if_neg]
    · rfl
    · rintro ⟨d, hd, hnot⟩
      have hok := hadd d hd .empty
      rw [Sink.add_of_not_isRecordable hnot] at hok
      cases hok

end Offer

/-! ## Nodes of units -/

/-- No node that a session on a well-formed unit visits is foreign. -/
theorem CompilationUnit.WellFormed.isForeign_of_mem_walk {unit : CompilationUnit}
    (h : unit.WellFormed) {node : Node} (hnode : node ∈ walk unit.roots) :
    node.isForeign = false := by
  obtain ⟨position, hposition⟩ := mem_walk.mp hnode
  exact h.known position node hposition

/-! ## What a session notes -/

section Session

variable {config : Document} {registry : Registry}

/-- The entries of a registry that fail on a node: the one of the rule on calls that may panic, if
it is not switched off. -/
theorem flatMap_failsOn_entries (h : (Registry.ofDocument config).value = .ok registry)
    (node : Node) (event : Event) :
    (registry.entries.flatMap fun e => if e.failsOn node then [event] else []) =
      if Config.disables config "security_panic_usage" then []
      else if node.callsCompound then [event] else [] := by
  have hrule : ∀ rule : Rule,
      ((Config.applied? config rule).toList.flatMap fun e =>
        if e.failsOn node then [event] else []) =
        if Config.disables config rule.id then []
        else if rule.id == "security_panic_usage" && node.callsCompound then [event] else [] := by
    intro rule
    unfold Config.applied?
    split
    · rfl
    · exact List.append_nil _
  rw [Registry.entries_of_ofDocument h, List.filterMap_eq_flatMap_toList, List.flatMap_assoc]
  simp only [hrule]
  simp [builtinRules, uncheckedRegion, indexing, panicProne, missingType, Rule.ofFindings]

theorem flatMap_ite_singleton {α β : Type} (p : α → Bool) (b : β) (xs : List α) :
    (xs.flatMap fun a => if p a then [b] else []) = (xs.filter p).map fun _ => b := by
  induction xs with
  | nil => rfl
  | cons a xs ih =>
    rw [List.flatMap_cons, ih, List.filter_cons]
    cases p a <;> rfl

/-- Of what is noted at a node, the walker's own are the faults of the entries. -/
theorem walkerEvents_offers (h : (Registry.ofDocument config).value = .ok registry)
    (context : Context) (node : Node) :
    ((registry.entries.flatMap fun e => (e.rule.check context node).events ++
        (e.fault? node (e.rule.check context node).value).toList).filter fun event =>
      event.component == .walker) =
      registry.entries.flatMap fun e =>
        if e.failsOn node then [.ruleFailed "security_panic_usage" "Call"] else [] := by
  rw [List.filter_flatMap]
  refine List.flatMap_congr fun e he => ?_
  obtain ⟨findings, hbuiltIn⟩ := exists_builtIn_of_mem_entries h he
  have hnoted : ((e.rule.check context node).events.filter fun event =>
      event.component == .walker) = [] := by
    rw [List.filter_eq_nil_iff]
    intro event hevent
    rw [hbuiltIn.component_of_mem_check hevent]
    decide
  rw [List.filter_append, hnoted, List.nil_append, Entry.fault?_of_builtIn hbuiltIn]
  split <;> rfl

/-- The faults that a session notes, in order: one for each call to a path whose definition id is an
array or an object, unless the rule on calls that may panic is switched off. -/
theorem walkerEvents_lintInto (h : (Registry.ofDocument config).value = .ok registry)
    {unit : CompilationUnit} (hunit : unit.WellFormed) (maxDepth : Option Int) (sink : Sink) :
    ((lintInto ⟨unit, maxDepth⟩ registry sink).events.filter fun event =>
      event.component == .walker) =
      if Config.disables config "security_panic_usage" then []
      else ((walk unit.roots).filter Node.callsCompound).map fun _ =>
        .ruleFailed "security_panic_usage" "Call" := by
  have hnode : ∀ node ∈ walk unit.roots,
      (((registry.entries.flatMap fun e => (e.rule.check ⟨unit, maxDepth⟩ node).events ++
        (e.fault? node (e.rule.check ⟨unit, maxDepth⟩ node).value).toList) ++
          skippedChildren node).filter fun event => event.component == .walker) =
        if Config.disables config "security_panic_usage" then []
        else if node.callsCompound then [.ruleFailed "security_panic_usage" "Call"] else [] := by
    intro node hmem
    have hskipped : skippedChildren node = [] := by
      rw [skippedChildren, hunit.isForeign_of_mem_walk hmem]
      rfl
    rw [hskipped, List.append_nil, walkerEvents_offers h, flatMap_failsOn_entries h]
  have hevents : (lintInto ⟨unit, maxDepth⟩ registry sink).events.filter
      (fun event => event.component == .walker) =
      (traverse ⟨unit, maxDepth⟩ registry.entries unit.roots sink).events.filter
        fun event => event.component == .walker :=
    (List.filter_append _ _).trans (List.append_nil _)
  rw [hevents, events_traverse, List.filter_flatMap, List.flatMap_congr hnode]
  cases Config.disables config "security_panic_usage" with
  | true => simp
  | false => exact flatMap_ite_singleton _ _ _

/-- An event of a session is the known fault if it is the walker's own, and otherwise of the lowest
level. -/
theorem fault_or_debug_of_mem_lintInto (h : (Registry.ofDocument config).value = .ok registry)
    {unit : CompilationUnit} (hunit : unit.WellFormed) {maxDepth : Option Int} {sink : Sink}
    {event : Event}
    (hevent : event ∈ (lintInto ⟨unit, maxDepth⟩ registry sink).events) :
    (event.component = .walker ∧ event = .ruleFailed "security_panic_usage" "Call") ∨
      (event.component ≠ .walker ∧ event.level = .debug) := by
  by_cases hwalker : event.component = .walker
  · have hmem : event ∈ (lintInto ⟨unit, maxDepth⟩ registry sink).events.filter fun event =>
        event.component == .walker := List.mem_filter.mpr ⟨hevent, beq_iff_eq.mpr hwalker⟩
    rw [walkerEvents_lintInto h hunit] at hmem
    split at hmem
    · cases hmem
    · obtain ⟨-, -, heq⟩ := List.mem_map.mp hmem
      exact .inl ⟨hwalker, heq.symm⟩
  · refine .inr ⟨hwalker, ?_⟩
    rcases cases_of_mem_lintInto hevent with hwalker' | ⟨e, he, node, hnoted⟩ | ⟨_, _, rfl⟩
    · exact absurd hwalker' hwalker
    · obtain ⟨findings, hbuiltIn⟩ := exists_builtIn_of_mem_entries h he
      have hspan := hbuiltIn.component_of_mem_check hnoted
      cases event <;> cases hspan
      rfl
    · rfl

end Session

/-- **Faults are known exactly.** For every dump that can be read, every configuration that is
accepted, every limit and every sink, a session notes no node whose children are skipped and none
that a rule cannot classify. It notes one fault for each call to a path whose definition id is an
array or an object, in the order of the walk, unless the rule on calls that may panic is switched
off; its other events are of the lowest level. On such a call this rule fails. Every other offer
completes, and all that it reports can be recorded. -/
theorem session_faults_exactly (file : String) (dump config : Document) (maxDepth : Option Int)
    (sink : Sink) {unit : CompilationUnit} {registry : Registry} :
    Dump.readUnit file dump = .ok unit → (Registry.ofDocument config).value = .ok registry →
    let session := lintInto ⟨unit, maxDepth⟩ registry sink
    ((session.events.filter fun event => event.component == .walker) =
      if Config.disables config "security_panic_usage" then []
      else ((walk unit.roots).filter Node.callsCompound).map fun _ =>
        .ruleFailed "security_panic_usage" "Call") ∧
    (Event.ruleFailed "security_panic_usage" "Call").record =
      ⟨.warning, .walker, "Rule security_panic_usage failed on Call"⟩ ∧
    (∀ event ∈ session.events,
      (∀ kindName reason, event ≠ .childrenSkipped kindName reason) ∧
      (∀ rule kindName reason, event ≠ .unclassified rule kindName reason) ∧
      (event.component ≠ .walker → event.level = .debug)) ∧
    ∀ e ∈ registry.entries, ∀ node ∈ walk unit.roots,
      if e.id = "security_panic_usage" ∧ node.callsCompound then
        (e.rule.check ⟨unit, maxDepth⟩ node).value = .failed
      else e.Completes ⟨unit, maxDepth⟩ node := by
  intro hread hregistry session
  have hunit : unit.WellFormed := Dump.wellFormed_of_readUnit hread
  refine ⟨walkerEvents_lintInto hregistry hunit maxDepth sink, rfl, fun event hevent => ?_,
    fun e he node _ => ?_⟩
  · rcases fault_or_debug_of_mem_lintInto hregistry hunit hevent with
      ⟨hown, rfl⟩ | ⟨hother, hlevel⟩
    · exact ⟨nofun, nofun, fun hother => absurd hown hother⟩
    · refine ⟨?_, ?_, fun _ => hlevel⟩
      · rintro _ _ rfl
        exact hother rfl
      · rintro _ _ _ rfl
        exact hother rfl
  · obtain ⟨findings, hbuiltIn⟩ := exists_builtIn_of_mem_entries hregistry he
    split
    case isTrue hfails =>
      exact Entry.value_check_of_failsOn hbuiltIn _ (by simpa [Entry.failsOn] using hfails)
    case isFalse hfails =>
      exact Entry.completes_of_not_failsOn hbuiltIn _ (by simpa [Entry.failsOn] using hfails)

/-- A dump with three calls: to a path whose definition id is an array, to one without an id, and to
one whose id is an object, in this order. -/
def compoundIdsDump : Document :=
  let line : Document := .arr [.int 1, .int 1, .int 1, .int 9]
  let call : Document → Document := fun id => .obj [("kind", .str "call"), ("span", line),
    ("func", .obj [("kind", .str "path"), ("path", .str "f"), ("span", line), ("def_id", id)])]
  let constant : Document → Document := fun value =>
    .obj [("kind", .str "const"), ("name", .str "K"), ("span", line), ("value", value)]
  .obj [("items", .arr ([.arr [], .null, .obj []].map fun id => constant (call id)))]

/-- The unit of that dump. -/
def compoundIdsUnit : CompilationUnit where
  name := "lib"
  items :=
    let line : Span := .written ⟨"lib.rs", 1, 1, 1, 9⟩
    [.arr [], .null, .obj []].map fun id =>
      .constant "K" line none (some (.call (.path ["f"] line id) [] line))
  definitions := []
  langItems := {}

/-- The session notes two faults, and none when the rule is switched off. -/
theorem session_faults_compoundIds :
    Dump.readUnit "lib.rs" compoundIdsDump = .ok compoundIdsUnit ∧
    (∃ registry, (Registry.ofDocument (.obj [])).value = .ok registry ∧
      ((lintInto ⟨compoundIdsUnit, some 0⟩ registry .empty).events.filter fun event =>
        event.component == .walker) =
        [.ruleFailed "security_panic_usage" "Call", .ruleFailed "security_panic_usage" "Call"]) ∧
    ∃ registry, (Registry.ofDocument
        (.obj [("rules", .obj [("security_panic_usage", .bool false)])])).value = .ok registry ∧
      ((lintInto ⟨compoundIdsUnit, some 0⟩ registry .empty).events.filter fun event =>
        event.component == .walker) = [] := by
  have hunit : Dump.readUnit "lib.rs" compoundIdsDump = .ok compoundIdsUnit := rfl
  refine ⟨hunit, ⟨_, rfl, ?_⟩, ⟨_, rfl, ?_⟩⟩
  · rw [(session_faults_exactly _ _ (.obj []) (some 0) .empty hunit rfl).1]
    decide +kernel
  · rw [(session_faults_exactly _ _ (.obj [("rules", .obj [("security_panic_usage", .bool false)])])
      (some 0) .empty hunit rfl).1]
    rfl

end TreeLint
