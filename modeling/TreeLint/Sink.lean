import Std.Data.HashSet
import TreeLint.Diagnostic

/-!
# Sinks

A sink records diagnostics in the order in which they are offered. A diagnostic that is equal in
every field to a recorded one is dropped, and one with a composite category is refused; neither
changes the sink. The sink counts what it recorded by severity.

## Main definitions

* `Summary`: the number of diagnostics by severity
* `Sink`: the recorded diagnostics
* `Sink.add`, `Sink.extend`: offering diagnostics
* `Sink.sorted`, `Sink.top`: views of the recorded diagnostics
* `Sink.exitCode`: the exit code that they ask for
-/

namespace TreeLint

/-- The number of diagnostics by severity. -/
structure Summary where
  deny : Nat := 0
  warn : Nat := 0
  deriving DecidableEq, Repr

namespace Summary

/-- One diagnostic more of a severity. -/
def increment (s : Summary) : Severity → Summary
  | .deny => { s with deny := s.deny + 1 }
  | .warn => { s with warn := s.warn + 1 }

/-- The number of diagnostics of a severity. -/
def count (s : Summary) : Severity → Nat
  | .deny => s.deny
  | .warn => s.warn

/-- The severities with their numbers, in the order of reports. -/
def rows (s : Summary) : List (Severity × Nat) :=
  Severity.all.map fun severity => (severity, s.count severity)

/-- The number of all diagnostics. -/
def total (s : Summary) : Nat :=
  s.rows.foldl (fun n row => n + row.2) 0

/-- A summary as a document. -/
def toDocument (s : Summary) : Document :=
  .obj (s.rows.map fun row => (row.1.name, .int row.2))

end Summary

/-- Recorded diagnostics in the order in which they were offered, the set of them, and their numbers
by severity. -/
structure Sink where
  summary : Summary := {}
  diagnostics : List Diagnostic := []
  seen : Std.HashSet Diagnostic := ∅

/-- A diagnostic has a composite category. -/
inductive Unrecordable where
  | compositeCategory
  deriving DecidableEq, Repr

namespace Sink

/-- The sink without diagnostics. -/
def empty : Sink := {}

/-- The sink with one more diagnostic, which is not recorded yet. -/
def record (s : Sink) (d : Diagnostic) : Sink where
  summary := s.summary.increment d.severity
  diagnostics := s.diagnostics ++ [d]
  seen := s.seen.insert d

/-- Offers a diagnostic and tells whether it is new. -/
def add (s : Sink) (d : Diagnostic) : Except Unrecordable (Sink × Bool) :=
  if !d.category.isRecordable then .error .compositeCategory
  else if s.seen.contains d then .ok (s, false)
  else .ok (s.record d, true)

/-- Offers diagnostics one by one up to the first that cannot be recorded. What was recorded before
it stays. -/
def extend (s : Sink) : List Diagnostic → Sink × Except Unrecordable Unit
  | [] => (s, .ok ())
  | d :: ds => match s.add d with
    | .ok (s, _) => s.extend ds
    | .error fault => (s, .error fault)

/-- Whether nothing was denied. -/
def passed (s : Sink) : Bool :=
  s.summary.deny == 0

/-- The recorded diagnostics in the order of their sites; those at the same site and of the same
rule keep their order. -/
def sorted (s : Sink) : List Diagnostic :=
  s.diagnostics.mergeSort fun a b => (Diagnostic.compareSite a b).isLE

/-- The exit code that the recorded diagnostics ask for. -/
def exitCode (s : Sink) : Nat :=
  (s.diagnostics.map fun d => d.severity.exitPriority).foldl max 0

end Sink

/-- The front of a list up to a limit. A negative limit counts from the end, and without a limit the
list is whole. -/
def sliceTo {α : Type} : Option Int → List α → List α
  | none, xs => xs
  | some (.ofNat n), xs => xs.take n
  | some (.negSucc n), xs => xs.take (xs.length - (n + 1))

namespace Sink

/-- The number of diagnostics that reports show first. -/
def defaultTop : Nat := 5

/-- The first diagnostics in the order of their severities and then of their sites. -/
def top (s : Sink) (limit : Option Int := some defaultTop) : List Diagnostic :=
  sliceTo limit (s.diagnostics.mergeSort fun a b => (Diagnostic.compareRank a b).isLE)

end Sink

end TreeLint
