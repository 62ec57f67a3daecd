import TreeLint.Diagnostic
import TreeLint.Event
import TreeLint.Tree.Node

/-!
# Rules

A rule looks at one node at a time and reports what it finds. A report is anchored at the
user-visible site of a span, and its own span is the plain region of that site.

## Main definitions

* `Context`: the unit and the limit on chains of call sites
* `Outcome`: what a rule says of a node
* `Rule`: an id, a severity and a matcher
* `Context.report`: a diagnostic at the user-visible site of a span
-/

namespace TreeLint

/-- What rules may consult. -/
structure Context where
  unit : CompilationUnit
  /-- The greatest number of hops along a chain of call sites, if it is limited. -/
  maxDepth : Option Int := none

/-- What a rule says of a node. -/
inductive Outcome where
  /-- The rule reports these diagnostics. -/
  | reported (diagnostics : List Diagnostic)
  /-- The rule has nothing to say. -/
  | nothing
  /-- The rule cannot classify the node. -/
  | unclassified (reason : String)
  /-- The rule fails. -/
  | failed

/-- A rule with the severity that its diagnostics have by default. -/
structure Rule where
  id : String
  severity : Severity
  check : Context → Node → Logged Outcome

namespace Context

/-- The user-visible site of a span. A chain that cannot be unwound is noted. -/
def userSite (context : Context) (span : Span) : Logged Span :=
  match span.userSite context.maxDepth with
  | (site, none) => pure site
  | (site, some fault) => ⟨site, [.unwindFailed span.region (fault.map Span.region)]⟩

end Context

/-- What a rule found at a span. -/
structure Finding where
  span : Span
  message : String
  category : String

/-- A finding as a diagnostic of a rule at the user-visible site of its span. -/
def Context.report (context : Context) (rule : String) (severity : Severity) (finding : Finding) :
    Logged Diagnostic := do
  let site ← context.userSite finding.span
  pure ⟨rule, severity, site.plain, finding.message, .named finding.category⟩

/-- The rule whose diagnostics are the findings of a function. -/
def Rule.ofFindings (id : String) (severity : Severity)
    (findings : CompilationUnit → Node → List Finding) : Rule where
  id := id
  severity := severity
  check context node := do
    let diagnostics ← (findings context.unit node).mapM (context.report id severity)
    pure (.reported diagnostics)

end TreeLint
