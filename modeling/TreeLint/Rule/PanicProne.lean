import TreeLint.Rule

/-!
# Calls that may panic

Two families of calls end in a panic: accessors, which are recognised by their method name alone,
and calls whose callee resolves to a backend of the panic runtime. A backend is recognised by a
signature anywhere in its path; of several signatures the first in the table counts.

## Main definitions

* `Accessor`, `PanicBackend`: the two families
* `PanicBackend.signatures`: the table of signatures
* `PanicBackend.ofPath?`: the backend that a path names
* `panicProne`: the rule
-/

namespace TreeLint

/-- Accessors that panic on the wrong variant. -/
inductive Accessor where
  | unwrap
  | expect
  | unwrapErr
  | expectErr
  deriving DecidableEq, Repr

namespace Accessor

/-- The method name of an accessor. -/
def name : Accessor → String
  | .unwrap => "unwrap"
  | .expect => "expect"
  | .unwrapErr => "unwrap_err"
  | .expectErr => "expect_err"

/-- The name of an accessor in messages. -/
def label : Accessor → String
  | .unwrap => "Unwrap"
  | .expect => "Expect"
  | .unwrapErr => "UnwrapErr"
  | .expectErr => "ExpectErr"

instance : Vocabulary Accessor :=
  ⟨"Accessor", [.unwrap, .expect, .unwrapErr, .expectErr], name⟩

/-- The accessor with a method name. -/
def ofMethod? (method : String) : Option Accessor :=
  Vocabulary.find? method

end Accessor

/-- Backends of the panic runtime. -/
inductive PanicBackend where
  | panickingModule
  | panicFmt
  | panicDisplay
  | assertFailed
  | beginPanic
  deriving DecidableEq, Repr

namespace PanicBackend

/-- The category of a backend. -/
def name : PanicBackend → String
  | .panickingModule => "panicking_module"
  | .panicFmt => "panic_fmt"
  | .panicDisplay => "panic_display"
  | .assertFailed => "assert_failed"
  | .beginPanic => "begin_panic"

/-- The name of a backend in messages. -/
def label : PanicBackend → String
  | .panickingModule => "PanickingModule"
  | .panicFmt => "PanicFmt"
  | .panicDisplay => "PanicDisplay"
  | .assertFailed => "AssertFailed"
  | .beginPanic => "BeginPanic"

/-- The signatures of the backends; the first that occurs in a path counts. -/
def signatures : List (String × PanicBackend) :=
  [("panicking::", .panickingModule), ("panic_fmt", .panicFmt), ("panic_display", .panicDisplay),
    ("assert_failed", .assertFailed), ("begin_panic", .beginPanic)]

/-- The backend of the first signature that occurs in the path. -/
def ofPath? (path : String) : Option PanicBackend :=
  (signatures.find? fun entry => Text.occursIn entry.1.toList path.toList).map Prod.snd

end PanicBackend

/-- The finding for a call to something that may panic. -/
def panicFinding (span : Span) (label category : String) : Finding :=
  ⟨span, "Call to panic backend `" ++ label ++ "` detected.", category⟩

/-- The finding for a method call, if the method is an accessor. -/
def accessorFinding? (span : Span) (method : String) : Option Finding :=
  (Accessor.ofMethod? method).map fun a => panicFinding span a.label a.name

/-- The finding for a call to a path, if it names a backend. -/
def backendFinding? (span : Span) (path : String) : Option Finding :=
  (PanicBackend.ofPath? path).map fun b => panicFinding span b.label b.name

/-- What the rule on calls that may panic finds at a node. A callee whose definition id cannot be
looked up is a failure. -/
def panicFindings (unit : CompilationUnit) : Node → Option (List Finding)
  | .expr (.methodCall _ method _ span) => some (accessorFinding? span method).toList
  | .expr (.call (.path _ _ defId) _ span) => match unit.resolve defId with
    | .path path => some (backendFinding? span path).toList
    | .unknown => some []
    | .notAKey => none
  | _ => some []

/-- The rule on calls that may panic. -/
def panicProne : Rule where
  id := "security_panic_usage"
  severity := .deny
  check context node := match panicFindings context.unit node with
    | some findings => do
      let diagnostics ← findings.mapM (context.report "security_panic_usage" .deny)
      pure (.reported diagnostics)
    | none => pure .failed

end TreeLint
