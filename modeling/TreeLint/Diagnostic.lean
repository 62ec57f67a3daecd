import TreeLint.Severity
import TreeLint.Span

/-!
# Diagnostics

A diagnostic is a match of a rule at a span. Diagnostics are ordered by the file, line and column of
the span and then by the rule; names are compared by code points.

## Main definitions

* `Category`: what a rule found, by name
* `Diagnostic`: a match of a rule
* `Diagnostic.compareSite`: the order of diagnostics
-/

namespace TreeLint

/-- What a rule found. A composite category is neither absent nor a name; it cannot be recorded. -/
inductive Category where
  | absent
  | named (name : String)
  | composite
  deriving DecidableEq, Hashable, Repr

namespace Category

/-- Whether a diagnostic of this category can be recorded. -/
def isRecordable : Category → Bool
  | .composite => false
  | _ => true

/-- The category as a document. -/
def toDocument : Category → Document
  | .absent => .null
  | .named name => .str name
  | .composite => .arr []

/-- Whether the category is one of the names. -/
def isAmong (names : List String) : Category → Bool
  | .named name => names.contains name
  | _ => false

end Category

/-- A match of a rule at a span. -/
structure Diagnostic where
  rule : String
  severity : Severity
  span : Span
  message : String
  category : Category
  deriving DecidableEq, Hashable, Repr

namespace Diagnostic

/-- The order by file, line, column and rule. -/
def compareSite : Diagnostic → Diagnostic → Ordering :=
  compareLex (compareOn fun d => d.span.region.file) <|
  compareLex (compareOn fun d => d.span.region.line) <|
  compareLex (compareOn fun d => d.span.region.column) <|
  compareOn fun d => d.rule

/-- The order by severity, then by file, line, column and rule. -/
def compareRank : Diagnostic → Diagnostic → Ordering :=
  compareLex (compareOn fun d => d.severity.rank) compareSite

end Diagnostic

/-- A region as a document. -/
def Region.toDocument (r : Region) : Document :=
  .obj [("file", .str r.file), ("line", .int r.line), ("column", .int r.column),
    ("end_line", .int r.endLine), ("end_column", .int r.endColumn)]

/-- A diagnostic as a document. -/
def Diagnostic.toDocument (d : Diagnostic) : Document :=
  .obj [("rule", .str d.rule), ("severity", .str d.severity.name), ("message", .str d.message),
    ("category", d.category.toDocument), ("span", d.span.region.toDocument)]

end TreeLint
