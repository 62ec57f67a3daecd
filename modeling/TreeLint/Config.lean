import TreeLint.Event

/-!
# Configurations

A configuration gives settings to rules by their ids. The settings of a rule are absent, a truth
value that switches the rule, or a mapping with up to three settings. A setting that is malformed is
ignored and noted as a problem; it leaves the other settings as they are.

## Main definitions

* `RuleSettings`: the settings of one rule
* `Config`: the settings of all rules with the problems found
* `Config.ofDocument`: the configuration that a document writes
-/

namespace TreeLint

/-- The settings of one rule. -/
structure RuleSettings where
  enabled : Bool := true
  severity : Option Severity := none
  disabledCategories : List String := []
  deriving DecidableEq, Repr

/-- The settings of the rules in document order, with the problems found. -/
structure Config where
  rules : List (String × RuleSettings) := []
  problems : List ConfigProblem := []

namespace RuleSettings

/-- A setting with the problem that made it fall back to its default, if any. -/
abbrev Parsed (α : Type) := α × Option ProblemCause

/-- The switch of a rule, which is on unless it says otherwise. -/
def readSwitch : Option Document → Parsed Bool
  | none => (true, none)
  | some (.bool b) => (b, none)
  | some _ => (true, some .malformedSwitch)

/-- The severity of a rule, if one is set. -/
def readSeverity : Option Document → Parsed (Option Severity)
  | none => (none, none)
  | some .null => (none, none)
  | some d => match Severity.ofDocument? d with
    | some severity => (some severity, none)
    | none => (none, some (.unknownSeverity (Severity.unknownMessage d)))

/-- The text that a document is, if it is one. -/
def asName? : Document → Option String
  | .str name => some name
  | _ => none

/-- The disabled categories of a rule, if they are set. -/
def readCategories : Option Document → Parsed (List String)
  | none => ([], none)
  | some .null => ([], none)
  | some (.arr ds) => match ds.mapM asName? with
    | some names => (names, none)
    | none => ([], some .malformedCategories)
  | some _ => ([], some .malformedCategories)

/-- The settings that a mapping writes, with their problems in order. -/
def ofFields (fields : List (String × Document)) : RuleSettings × List ProblemCause :=
  let switch := readSwitch (Document.field? fields "enabled")
  let severity := readSeverity (Document.field? fields "severity")
  let categories := readCategories (Document.field? fields "disable_categories")
  (⟨switch.1, severity.1, categories.1⟩,
    switch.2.toList ++ severity.2.toList ++ categories.2.toList)

/-- The settings that an entry writes, with their problems in order. An entry that is neither
absent, a truth value nor a mapping gives no settings. -/
def ofDocument : Document → Option RuleSettings × List ProblemCause
  | .null => (some {}, [])
  | .bool b => (some { enabled := b }, [])
  | .obj fields => let (settings, causes) := ofFields fields; (some settings, causes)
  | _ => (none, [.malformedSettings])

end RuleSettings

namespace Config

/-- The configuration with the entry of one more rule. -/
def addEntry (config : Config) (entry : String × Document) : Logged Config :=
  let (settings, causes) := RuleSettings.ofDocument entry.2
  let problems := causes.map fun cause => ⟨entry.1, cause⟩
  ⟨⟨config.rules ++ (settings.map fun s => (entry.1, s)).toList, config.problems ++ problems⟩,
    problems.map .settingsProblem⟩

/-- The entries of a configuration. -/
def entries : Document → Except ConfigFault (List (String × Document))
  | .null => .ok []
  | .obj fields => match (Document.field? fields "rules").getD .null with
    | .obj rules => .ok rules
    | d => if d.holds then .error .rulesNotAMapping else .ok []
  | _ => .error .notAMapping

/-- The configuration that a document writes. -/
def ofDocument (d : Document) : Except ConfigFault (Logged Config) :=
  (entries d).map fun rules => rules.foldlM addEntry {}

/-- The settings of a rule, if it has any. -/
def settings? (config : Config) (rule : String) : Option RuleSettings :=
  config.rules.lookup rule

end Config

end TreeLint
