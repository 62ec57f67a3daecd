import TreeLint.Document

/-!
# Severities

A diagnostic is denied or warned about. A denied one fails the run.

## Main definitions

* `Severity`: the two levels
* `Severity.exitPriority`: the exit code that a level asks for
* `Severity.ofDocument?`: the level that a document value names
-/

namespace TreeLint

/-- The level of a diagnostic. -/
inductive Severity where
  | deny
  | warn
  deriving DecidableEq, Hashable, Repr

namespace Severity

/-- The word for a level. -/
def name : Severity → String
  | .deny => "deny"
  | .warn => "warn"

/-- The levels in the order in which reports list them. -/
def all : List Severity := [.deny, .warn]

instance : Vocabulary Severity := ⟨"Severity", all, name⟩

/-- The place of a level in reports. -/
def rank : Severity → Nat
  | .deny => 0
  | .warn => 1

/-- The exit code that a level asks for. -/
def exitPriority : Severity → Nat
  | .deny => 2
  | .warn => 0

/-- The level that a value names, blanks around it and letter case aside. Only a text can name a
level. No letter outside the basic alphabet has one of the letters of a level's name as its lower
case, so the basic letters are the only ones to fold. -/
def ofDocument? : Document → Option Severity
  | .str s => Vocabulary.find? (String.ofList ((Text.strip s).toList.map Char.toLower))
  | _ => none

/-- The message for a value that names no level. -/
def unknownMessage (value : Document) : String :=
  "Unknown severity level: " ++ value.quoted

end Severity

end TreeLint
