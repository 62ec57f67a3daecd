import TreeLint.Tree

/-!
# Nodes

A node is an expression, a statement or an item. The children of a node are all expressions,
statements and items that it holds directly, in source order; nothing is known of the children of a
foreign node.

## Main definitions

* `Node`: a node of any sort
* `Node.kindName`: the name of its kind, as messages show it
* `Node.children`: the nodes that it holds directly
* `Node.isForeign`: whether it is of a kind outside the tree model
-/

namespace TreeLint

/-- A node of the tree. -/
inductive Node where
  | expr (expr : Expr)
  | stmt (stmt : Stmt)
  | item (item : Item)

/-- The name of the kind of an expression. -/
def Expr.kindName : Expr → String
  | .literal .. => "Literal"
  | .path .. => "PathExpr"
  | .unary .. => "Unary"
  | .binary .. => "Binary"
  | .addrOf .. => "AddrOf"
  | .field .. => "FieldAccess"
  | .call .. => "Call"
  | .methodCall .. => "MethodCall"
  | .index .. => "Index"
  | .range .. => "RangeExpr"
  | .closure .. => "Closure"
  | .block .. => "BlockExpr"
  | .conditional .. => "If"
  | .array .. => "ArrayExpr"
  | .ret .. => "Return"
  | .foreign kindName _ => kindName

/-- The name of the kind of a statement. -/
def Stmt.kindName : Stmt → String
  | .binding .. => "LetStmt"
  | .expr .. => "ExprStmt"
  | .item .. => "ItemStmt"
  | .foreign kindName _ => kindName

/-- The name of the kind of an item. -/
def Item.kindName : Item → String
  | .function .. => "FnItem"
  | .trait .. => "TraitItem"
  | .implementation .. => "ImplItem"
  | .struct .. => "StructItem"
  | .submodule .. => "ModItem"
  | .constant .. => "ConstItem"
  | .typeAlias .. => "TypeAliasItem"
  | .foreign kindName _ => kindName

/-- The nodes that an expression holds directly. -/
def Expr.children : Expr → List Node
  | .literal .. => []
  | .path .. => []
  | .unary _ operand _ => [.expr operand]
  | .binary _ lhs rhs _ => [.expr lhs, .expr rhs]
  | .addrOf operand _ _ => [.expr operand]
  | .field target _ _ => [.expr target]
  | .call callee args _ => .expr callee :: args.map .expr
  | .methodCall receiver _ args _ => .expr receiver :: args.map .expr
  | .index target operand _ => [.expr target, .expr operand]
  | .range _ start stop _ => (start.toList ++ stop.toList).map .expr
  | .closure _ body _ _ => [.expr body]
  | .block (.mk stmts _ tail _ _) => stmts.map .stmt ++ tail.toList.map .expr
  | .conditional condition consequence _ alternative =>
    .expr condition :: .expr (.block consequence) :: alternative.toList.map .expr
  | .array elements _ => elements.map .expr
  | .ret _ value => value.toList.map .expr
  | .foreign .. => []

/-- The nodes that a statement holds directly. -/
def Stmt.children : Stmt → List Node
  | .binding _ _ _ init otherwise =>
    init.toList.map .expr ++ otherwise.toList.map fun block => .expr (.block block)
  | .expr e _ _ => [.expr e]
  | .item i _ => [.item i]
  | .foreign .. => []

/-- The nodes that an item holds directly. -/
def Item.children : Item → List Node
  | .function _ _ _ _ body => body.toList.map fun block => .expr (.block block)
  | .trait _ _ _ items => items.map .item
  | .implementation _ _ _ _ items => items.map .item
  | .struct .. => []
  | .submodule _ _ items => items.map .item
  | .constant _ _ _ value => value.toList.map .expr
  | .typeAlias .. => []
  | .foreign .. => []

namespace Node

/-- The span of a node. -/
def span : Node → Span
  | .expr e => e.span
  | .stmt s => s.span
  | .item i => i.span

/-- The name of the kind of a node. -/
def kindName : Node → String
  | .expr e => e.kindName
  | .stmt s => s.kindName
  | .item i => i.kindName

/-- The nodes that a node holds directly, in source order. -/
def children : Node → List Node
  | .expr e => e.children
  | .stmt s => s.children
  | .item i => i.children

/-- Whether the node is of a kind outside the tree model. -/
def isForeign : Node → Bool
  | .expr (.foreign ..) => true
  | .stmt (.foreign ..) => true
  | .item (.foreign ..) => true
  | _ => false

/-- The wording for a node whose children are not known. -/
def unsupportedMessage (n : Node) : String :=
  "unsupported node kind " ++ n.kindName

end Node

/-- The top-level nodes of a unit. -/
def CompilationUnit.roots (unit : CompilationUnit) : List Node :=
  unit.items.map .item

end TreeLint
