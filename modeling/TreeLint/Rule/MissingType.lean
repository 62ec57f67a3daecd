import TreeLint.Rule

/-!
# Missing type annotations

Bindings and closure parameters without a written type. Patterns that bind nothing are left alone,
and so is code that the user did not write: a binding counts only when its own span is written by
the user, a closure unless its own span comes from a macro.

## Main definitions

* `missingType`: the rule
-/

namespace TreeLint

/-- Whether the type of a parameter was left to inference. -/
def Param.isInferred (p : Param) : Bool :=
  match p.typeSpan with
  | none => true
  | some span => span.region.isEmpty || span == p.pattern.span

/-- The finding for a binding without a type. -/
def bindingFinding (p : Pattern) : Finding :=
  ⟨p.span, "Missing explicit type annotation on let binding.", "let_binding"⟩

/-- The finding for a closure parameter without a type. -/
def paramFinding (p : Param) : Finding :=
  ⟨p.pattern.span, "Closure parameter missing explicit type annotation.", "closure_param"⟩

/-- What the rule on missing types finds at a node. -/
def missingTypeFindings : Node → List Finding
  | .stmt (.binding pattern span type _ _) =>
    if !pattern.isWild && span.origin.kind == .direct && type.isNone then [bindingFinding pattern]
    else []
  | .expr (.closure params _ span kind) =>
    if span.origin.isExpansion || kind == .coroutine then []
    else (params.filter fun p => !p.pattern.isWild && p.isInferred).map paramFinding
  | _ => []

/-- The rule on missing types. -/
def missingType : Rule :=
  .ofFindings "missing_type" .warn fun _ => missingTypeFindings

end TreeLint
