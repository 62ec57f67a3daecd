import TreeLint.Json.Printer
import TreeLint.Sink

/-!
# Reports

A sink is shown as a table for the console and written as a JSON document.

## Main definitions

* `Sink.table`: the summary table with the first diagnostics
* `Sink.toDocument`: the report as a document
* `Sink.toJson`: the report as text
-/

namespace TreeLint

/-- A text with blanks after it up to a width. -/
def padRight (width : Nat) (s : String) : String :=
  s ++ String.ofList (List.replicate (width - s.length) ' ')

/-- A text with blanks before it up to a width. -/
def padLeft (width : Nat) (s : String) : String :=
  String.ofList (List.replicate (width - s.length) ' ') ++ s

/-- A line of one repeated character. -/
def ruleLine (c : Char) (width : Nat) : String :=
  String.ofList (List.replicate width c)

namespace Sink

/-- A row of the table. -/
def tableRow (label count : String) : String :=
  padRight 10 label ++ " | " ++ padLeft 5 count

/-- The heading of the table. -/
def tableHeader : String :=
  tableRow "Severity" "Count"

/-- The verdict on the recorded diagnostics. -/
def status (s : Sink) : String :=
  if s.passed then "PASS" else "FAIL"

/-- The category of a diagnostic in brackets, if it has a name that is not empty. -/
def categoryTag : Category → String
  | .named name => if name.isEmpty then "" else " [" ++ name ++ "]"
  | _ => ""

/-- The two lines of a diagnostic. -/
def diagnosticLines (d : Diagnostic) : List String :=
  ["[" ++ d.severity.name ++ "] " ++ d.rule ++ categoryTag d.category ++ " " ++ d.message,
    "  Location: " ++ d.span.location]

/-- The part of the table that lists diagnostics, which is left out when there are none. -/
def topLines (ds : List Diagnostic) : List String :=
  if ds.isEmpty then []
  else ["", "Top Diagnostics", ruleLine '-' 40] ++ ds.flatMap diagnosticLines

/-- The lines of the summary table. -/
def tableLines (s : Sink) (limit : Option Int) : List String :=
  ["Lint Summary", ruleLine '=' 40, tableHeader, ruleLine '-' tableHeader.length] ++
    (s.summary.rows.map fun row => tableRow row.1.name (toString row.2)) ++
    [ruleLine '-' tableHeader.length, "Status    : " ++ s.status,
      "Diagnostics: " ++ toString s.summary.total] ++
    topLines (s.top limit)

/-- The summary table with the first diagnostics. -/
def table (s : Sink) (limit : Option Int := some defaultTop) : String :=
  "\n".intercalate (s.tableLines limit)

/-- The report as a document. -/
def toDocument (s : Sink) : Document :=
  .obj [("summary", s.summary.toDocument),
    ("diagnostics", .arr (s.sorted.map Diagnostic.toDocument)),
    ("passed", .bool s.passed)]

/-- The report as text. -/
def toJson (s : Sink) : String :=
  Json.indented s.toDocument

end Sink

end TreeLint
