import TreeLint.Config
import TreeLint.Rule.Indexing
import TreeLint.Rule.MissingType
import TreeLint.Rule.PanicProne
import TreeLint.Rule.UncheckedRegion

/-!
# Registries

A registry holds the rules of a run in the order of registration, each with the settings that apply
to it. No two rules of a registry have the same id.

## Main definitions

* `Entry`: a rule with its effective severity and its disabled categories
* `Registry`: the entries with the problems of the configuration
* `Registry.add`: registering a rule
* `builtinRules`: the rules in the order in which they are registered
* `Registry.ofConfig`: the registry that a configuration asks for
-/

namespace TreeLint

/-- A registered rule with the settings that apply to it. -/
structure Entry where
  rule : Rule
  severity : Severity
  disabledCategories : List String

/-- The id of a registered rule. -/
def Entry.id (e : Entry) : String :=
  e.rule.id

/-- Registered rules in the order of registration. -/
structure Registry where
  entries : List Entry := []
  problems : List ConfigProblem := []

namespace Registry

/-- The registry without rules. -/
def empty : Registry := {}

/-- The ids of the registered rules. -/
def ids (r : Registry) : List String :=
  r.entries.map Entry.id

/-- The entry of a rule. -/
def get? (r : Registry) (id : String) : Option Entry :=
  r.entries.find? fun e => e.id == id

/-- Whether a rule is registered. -/
def contains (r : Registry) (id : String) : Bool :=
  r.ids.contains id

/-- The entry for a rule: a severity that is not set is the rule's own. -/
def entryFor (rule : Rule) (severity : Option Severity) (disabledCategories : List String) :
    Entry :=
  ⟨rule, severity.getD rule.severity, disabledCategories⟩

/-- Registers a rule, whose id must be new. -/
def add (r : Registry) (rule : Rule) (severity : Option Severity := none)
    (disabledCategories : List String := []) : Except ConfigFault Registry :=
  if r.contains rule.id then .error (.duplicateRule rule.id)
  else .ok { r with entries := r.entries ++ [entryFor rule severity disabledCategories] }

end Registry

/-- The rules in the order in which they are registered. -/
def builtinRules : List Rule :=
  [uncheckedRegion, indexing, panicProne, missingType]

namespace Registry

/-- The registered rules with one more, unless the configuration disables it. -/
def addConfigured (config : Config) (r : Registry) (rule : Rule) :
    Logged (Except ConfigFault Registry) :=
  match config.settings? rule.id with
  | none => pure (r.add rule)
  | some settings =>
    if settings.enabled then pure (r.add rule settings.severity settings.disabledCategories)
    else ⟨.ok r, [.ruleDisabled rule.id]⟩

/-- Registers rules one by one. -/
def addAll (config : Config) (r : Registry) : List Rule → Logged (Except ConfigFault Registry)
  | [] => pure (.ok r)
  | rule :: rules => do
    match ← addConfigured config r rule with
    | .ok r => r.addAll config rules
    | .error fault => pure (.error fault)

/-- The problem of an entry that names no rule. -/
def unknownProblem (id : String) : ConfigProblem := ⟨id, .unknownRule⟩

/-- The problems of the entries that name no rule, in document order. -/
def unknownRules (config : Config) : List ConfigProblem :=
  ((config.rules.map Prod.fst).filter fun id =>
    !(builtinRules.map Rule.id).contains id).map unknownProblem

/-- The registry that a configuration asks for. Entries that name no rule are noted as problems;
every rule that is not disabled is registered. -/
def ofConfig (config : Config) : Logged (Except ConfigFault Registry) := do
  let unknown := unknownRules config
  Logged.mk () (unknown.map .unknownRule)
  addAll config { problems := config.problems ++ unknown } builtinRules

/-- The registry that a configuration document asks for. -/
def ofDocument (d : Document) : Logged (Except ConfigFault Registry) :=
  match Config.ofDocument d with
  | .ok config => config >>= ofConfig
  | .error fault => pure (.error fault)

end Registry

end TreeLint
