import TreeLint.Registry
import TreeLint.Sink
import TreeLint.Tree.Walk

/-!
# Linting units

Every node of a unit is offered to every registered rule in turn, and what the rule reports is
recorded in a sink. A rule that fails on a node is noted and changes nothing else.

Before diagnostics are recorded, those of disabled categories are dropped, and when the severity of
the entry is not the rule's own, it replaces theirs. A composite category cannot be compared with
names, so with disabled categories it fails the whole offer; without them it fails the recording at
its place, and what came before it stays.

## Main definitions

* `Entry.contribution`: what an entry makes of the diagnostics of its rule
* `offer`, `visit`, `traverse`: offering nodes to rules
* `lintInto`: linting a unit into a sink
* `lint`: linting a unit into a new sink
* `lintAll`: linting units one by one into one report
-/

namespace TreeLint

namespace Entry

/-- The diagnostics without those of disabled categories. With disabled categories, a composite
category is a failure. -/
def dropDisabled (e : Entry) (ds : List Diagnostic) : Except Unrecordable (List Diagnostic) :=
  if e.disabledCategories.isEmpty then .ok ds
  else if ds.all fun d => d.category.isRecordable then
    .ok (ds.filter fun d => !d.category.isAmong e.disabledCategories)
  else .error .compositeCategory

/-- The diagnostics with the severity of the entry, where it is not the rule's own. -/
def overrideSeverity (e : Entry) (ds : List Diagnostic) : List Diagnostic :=
  if e.severity = e.rule.severity then ds
  else ds.map fun d => { d with severity := e.severity }

/-- What an entry makes of the diagnostics of its rule. -/
def contribution (e : Entry) (ds : List Diagnostic) : Except Unrecordable (List Diagnostic) :=
  (e.dropDisabled ds).map e.overrideSeverity

end Entry

/-- Records what an entry makes of the diagnostics of its rule. -/
def recordAll (e : Entry) (ds : List Diagnostic) (sink : Sink) :
    Sink × Except Unrecordable Unit :=
  match e.contribution ds with
  | .ok ds => sink.extend ds
  | .error fault => (sink, .error fault)

/-- Offers a node to an entry. -/
def offer (context : Context) (node : Node) (sink : Sink) (e : Entry) : Logged Sink := do
  match ← e.rule.check context node with
  | .nothing => pure sink
  | .unclassified reason => ⟨sink, [.unclassified e.id node.kindName reason]⟩
  | .failed => ⟨sink, [.ruleFailed e.id node.kindName]⟩
  | .reported ds => match recordAll e ds sink with
    | (sink, .ok ()) => pure sink
    | (sink, .error _) => ⟨sink, [.ruleFailed e.id node.kindName]⟩

/-- What is noted when the children of a node are not known. -/
def skippedChildren (node : Node) : List Event :=
  if node.isForeign then [.childrenSkipped node.kindName node.unsupportedMessage] else []

/-- Offers a node to every entry in turn. -/
def visit (context : Context) (entries : List Entry) (sink : Sink) (node : Node) :
    Logged Sink := do
  let sink ← entries.foldlM (offer context node) sink
  ⟨sink, skippedChildren node⟩

/-- Offers all nodes beneath the roots to every entry, in pre-order. -/
def traverse (context : Context) (entries : List Entry) (roots : List Node) (sink : Sink) :
    Logged Sink :=
  (walk roots).foldlM (visit context entries) sink

/-- Lints a unit into a sink. -/
def lintInto (context : Context) (registry : Registry) (sink : Sink) : Logged Sink := do
  let sink ← traverse context registry.entries context.unit.roots sink
  Logged.note (.unitLinted context.unit.name registry.entries.length sink.summary.total)
  pure sink

/-- Lints a unit into a new sink. -/
def lint (registry : Registry) (unit : CompilationUnit) : Logged Sink :=
  lintInto ⟨unit, none⟩ registry .empty

/-- Lints a unit and adds its diagnostics, in the order of their sites, to a report. -/
def lintOnto (registry : Registry) (report : Sink) (unit : CompilationUnit) : Logged Sink := do
  let sink ← lint registry unit
  pure (report.extend sink.sorted).1

/-- Lints units one by one into one report. -/
def lintAll (registry : Registry) (units : List CompilationUnit) : Logged Sink :=
  units.foldlM (lintOnto registry) .empty

end TreeLint
