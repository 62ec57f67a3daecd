import TreeLint.Rule

/-!
# Regions without safety checks

Blocks, functions, traits and trait implementations that the user exempts from the safety checks of
the compiler.

## Main definitions

* `uncheckedRegion`: the rule
-/

namespace TreeLint

/-- What the rule on regions without safety checks finds at a node. A block that the compiler
exempts on its own is not the user's doing, and only the implementation of a trait can be exempt. -/
def uncheckedFindings : Node → List Finding
  | .expr (.block b) =>
    if b.mode = .uncheckedByUser then [⟨b.span, "Usage of unsafe block detected.", "block"⟩] else []
  | .item (.function _ span .unchecked _ _) => [⟨span, "Unsafe function detected.", "function"⟩]
  | .item (.trait _ span .unchecked _) => [⟨span, "Unsafe trait detected.", "trait"⟩]
  | .item (.implementation _ span (some _) .unchecked _) =>
    [⟨span, "Unsafe impl detected.", "impl"⟩]
  | _ => []

/-- The rule on regions without safety checks. -/
def uncheckedRegion : Rule :=
  .ofFindings "security_unsafe_usage" .deny fun _ => uncheckedFindings

end TreeLint
