import TreeLint.Text

/-!
# Kinds of nodes in a dump

Every node of a dump names its kind. Expressions, statements and items have a vocabulary each.

## Main definitions

* `ExprKind`, `StmtKind`, `ItemKind`: the kinds of expressions, statements and items
-/

namespace TreeLint.Dump

/-- The kinds of expressions. -/
inductive ExprKind where
  | literal
  | path
  | unary
  | binary
  | addrOf
  | field
  | call
  | methodCall
  | index
  | range
  | closure
  | block
  | conditional
  | array
  | ret
  deriving DecidableEq, Repr

namespace ExprKind

/-- The word for a kind of expression. -/
def name : ExprKind → String
  | .literal => "lit"
  | .path => "path"
  | .unary => "unary"
  | .binary => "binary"
  | .addrOf => "addr_of"
  | .field => "field"
  | .call => "call"
  | .methodCall => "method_call"
  | .index => "index"
  | .range => "range"
  | .closure => "closure"
  | .block => "block"
  | .conditional => "if"
  | .array => "array"
  | .ret => "return"

instance : Vocabulary ExprKind :=
  ⟨"ExprKind",
    [.literal, .path, .unary, .binary, .addrOf, .field, .call, .methodCall, .index, .range,
      .closure, .block, .conditional, .array, .ret],
    name⟩

end ExprKind

/-- The kinds of statements. -/
inductive StmtKind where
  | binding
  | expr
  | item
  deriving DecidableEq, Repr

namespace StmtKind

/-- The word for a kind of statement. -/
def name : StmtKind → String
  | .binding => "let"
  | .expr => "expr"
  | .item => "item"

instance : Vocabulary StmtKind := ⟨"StmtKind", [.binding, .expr, .item], name⟩

end StmtKind

/-- The kinds of items. -/
inductive ItemKind where
  | function
  | trait
  | implementation
  | struct
  | submodule
  | constant
  | typeAlias
  deriving DecidableEq, Repr

namespace ItemKind

/-- The word for a kind of item. -/
def name : ItemKind → String
  | .function => "fn"
  | .trait => "trait"
  | .implementation => "impl"
  | .struct => "struct"
  | .submodule => "mod"
  | .constant => "const"
  | .typeAlias => "type"

instance : Vocabulary ItemKind :=
  ⟨"ItemKind",
    [.function, .trait, .implementation, .struct, .submodule, .constant, .typeAlias], name⟩

end ItemKind

end TreeLint.Dump
