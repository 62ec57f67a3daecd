import TreeLint.Document
import TreeLint.Severity

/-!
# Problems of a configuration

Some documents are no configurations at all. In others single settings have problems; these settings
are ignored and the problems are collected.

## Main definitions

* `ConfigFault`: why a configuration or a registration is refused
* `ConfigProblem`: what is wrong with the settings of a rule
-/

namespace TreeLint

/-- Why a configuration or a registration is refused. -/
inductive ConfigFault where
  | notAMapping
  | rulesNotAMapping
  | duplicateRule (id : String)
  deriving DecidableEq, Repr

/-- The wording of a refusal. -/
def ConfigFault.message : ConfigFault → String
  | .notAMapping => "Configuration must be a mapping"
  | .rulesNotAMapping => "`rules` must map rule ids to settings"
  | .duplicateRule id => "Rule " ++ Text.quoted id ++ " is already registered"

/-- The ways in which the settings of a rule can be wrong. -/
inductive ProblemCause where
  /-- The settings are neither a truth value nor a mapping. -/
  | malformedSettings
  /-- The switch is not a truth value. -/
  | malformedSwitch
  /-- The severity, written as shown, names no level. -/
  | unknownSeverity (shown : String)
  /-- The disabled categories are not a list of names. -/
  | malformedCategories
  /-- No rule has the id. -/
  | unknownRule
  deriving DecidableEq, Repr

/-- What is wrong with the settings of a rule. -/
structure ConfigProblem where
  rule : String
  cause : ProblemCause
  deriving DecidableEq, Repr

namespace ConfigProblem

/-- The wording of a problem. -/
def message (p : ConfigProblem) : String :=
  let rule := Text.quoted p.rule
  match p.cause with
  | .malformedSettings => "Settings for rule " ++ rule ++ " must be a boolean or a mapping"
  | .malformedSwitch => "`enabled` for rule " ++ rule ++ " must be a boolean"
  | .unknownSeverity shown => "Rule " ++ rule ++ ": " ++ shown
  | .malformedCategories =>
    "`disable_categories` for rule " ++ rule ++ " must be a list of names"
  | .unknownRule => "Unknown rule id " ++ rule ++ " in configuration"

end ConfigProblem

end TreeLint
