import TreeLint.Rule

/-!
# Indexing

Indexing and slicing operations, and implementations of the traits for indexing.

## Main definitions

* `indexing`: the rule
-/

namespace TreeLint

/-- What an index operand is used for: a range slices, anything else indexes. -/
def indexUse : Expr → String × String
  | .range .. => ("slicing", "Usage of slicing operation detected.")
  | _ => ("indexing", "Usage of indexing operation detected.")

/-- What the rule on indexing finds at a node. -/
def indexingFindings (unit : CompilationUnit) : Node → List Finding
  | .expr (.index _ operand span) =>
    let (category, message) := indexUse operand
    [⟨span, message, category⟩]
  | .item (.implementation _ span (some ofTrait) _ _) =>
    if (unit.langItem? ofTrait.defId).isSome then
      [⟨span, "Implementation of Index/IndexMut trait detected.", "index_impl"⟩]
    else []
  | _ => []

/-- The rule on indexing. -/
def indexing : Rule :=
  .ofFindings "security_indexing_usage" .deny indexingFindings

end TreeLint
