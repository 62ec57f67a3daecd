import TreeLint.Tree.Node

/-!
# Pre-order

The nodes beneath a node in pre-order, by recursion on the tree: the node itself, then the
pre-orders of its children from left to right.

## Main definitions

* `Node.preorder`: the nodes of a subtree in pre-order

## Main results

* `Node.preorder_eq`: the pre-order of a node in terms of those of its children
-/

namespace TreeLint

mutual

/-- The nodes of an expression in pre-order. -/
def Expr.preorder : Expr → List Node
  | e@(.literal ..) => [.expr e]
  | e@(.path ..) => [.expr e]
  | e@(.unary _ operand _) => .expr e :: operand.preorder
  | e@(.binary _ lhs rhs _) => .expr e :: (lhs.preorder ++ rhs.preorder)
  | e@(.addrOf operand _ _) => .expr e :: operand.preorder
  | e@(.field target _ _) => .expr e :: target.preorder
  | e@(.call callee args _) => .expr e :: (callee.preorder ++ preorderExprs args)
  | e@(.methodCall receiver _ args _) => .expr e :: (receiver.preorder ++ preorderExprs args)
  | e@(.index target operand _) => .expr e :: (target.preorder ++ operand.preorder)
  | e@(.range _ start stop _) => .expr e :: (preorderExpr? start ++ preorderExpr? stop)
  | e@(.closure _ body _ _) => .expr e :: body.preorder
  | .block b => b.preorder
  | e@(.conditional condition consequence _ alternative) =>
    .expr e :: (condition.preorder ++ (consequence.preorder ++ preorderExpr? alternative))
  | e@(.array elements _) => .expr e :: preorderExprs elements
  | e@(.ret _ value) => .expr e :: preorderExpr? value
  | e@(.foreign ..) => [.expr e]

/-- The nodes of a block in pre-order, itself first. -/
def Block.preorder : Block → List Node
  | b@(.mk stmts _ tail _ _) => .expr (.block b) :: (preorderStmts stmts ++ preorderExpr? tail)

/-- The nodes of a statement in pre-order. -/
def Stmt.preorder : Stmt → List Node
  | s@(.binding _ _ _ init otherwise) =>
    .stmt s :: (preorderExpr? init ++ preorderBlock? otherwise)
  | s@(.expr e _ _) => .stmt s :: e.preorder
  | s@(.item i _) => .stmt s :: i.preorder
  | s@(.foreign ..) => [.stmt s]

/-- The nodes of an item in pre-order. -/
def Item.preorder : Item → List Node
  | i@(.function _ _ _ _ body) => .item i :: preorderBlock? body
  | i@(.trait _ _ _ items) => .item i :: preorderItems items
  | i@(.implementation _ _ _ _ items) => .item i :: preorderItems items
  | i@(.struct ..) => [.item i]
  | i@(.submodule _ _ items) => .item i :: preorderItems items
  | i@(.constant _ _ _ value) => .item i :: preorderExpr? value
  | i@(.typeAlias ..) => [.item i]
  | i@(.foreign ..) => [.item i]

/-- The nodes of an expression that may be absent. -/
def preorderExpr? : Option Expr → List Node
  | none => []
  | some e => e.preorder

/-- The nodes of a block that may be absent. -/
def preorderBlock? : Option Block → List Node
  | none => []
  | some b => b.preorder

/-- The nodes of expressions in sequence. -/
def preorderExprs : List Expr → List Node
  | [] => []
  | e :: es => e.preorder ++ preorderExprs es

/-- The nodes of statements in sequence. -/
def preorderStmts : List Stmt → List Node
  | [] => []
  | s :: ss => s.preorder ++ preorderStmts ss

/-- The nodes of items in sequence. -/
def preorderItems : List Item → List Node
  | [] => []
  | i :: is => i.preorder ++ preorderItems is

end

/-- The nodes of a subtree in pre-order. -/
def Node.preorder : Node → List Node
  | .expr e => e.preorder
  | .stmt s => s.preorder
  | .item i => i.preorder

theorem preorderExpr?_eq (e : Option Expr) :
    preorderExpr? e = (e.toList.map Node.expr).flatMap Node.preorder := by
  cases e <;> simp [preorderExpr?, Node.preorder]

theorem preorderBlock?_eq (b : Option Block) :
    preorderBlock? b =
      (b.toList.map fun b => Node.expr (.block b)).flatMap Node.preorder := by
  cases b <;> simp [preorderBlock?, Node.preorder, Expr.preorder]

theorem preorderExprs_eq (es : List Expr) :
    preorderExprs es = (es.map Node.expr).flatMap Node.preorder := by
  induction es with
  | nil => rfl
  | cons e es ih => simp [preorderExprs, ih, Node.preorder]

theorem preorderStmts_eq (ss : List Stmt) :
    preorderStmts ss = (ss.map Node.stmt).flatMap Node.preorder := by
  induction ss with
  | nil => rfl
  | cons s ss ih => simp [preorderStmts, ih, Node.preorder]

theorem preorderItems_eq (is : List Item) :
    preorderItems is = (is.map Node.item).flatMap Node.preorder := by
  induction is with
  | nil => rfl
  | cons i is ih => simp [preorderItems, ih, Node.preorder]

/-- A node comes first in its pre-order and is followed by the pre-orders of its children. -/
theorem Node.preorder_eq (n : Node) : n.preorder = n :: n.children.flatMap Node.preorder := by
  cases n with
  | expr e =>
    cases e with
    | block b =>
      cases b
      simp [preorder, Expr.preorder, Block.preorder, children, Expr.children, preorderStmts_eq,
        preorderExpr?_eq]
    | _ =>
      simp [preorder, Expr.preorder, children, Expr.children, preorderExprs_eq, preorderExpr?_eq]
  | stmt s =>
    cases s <;>
      simp [preorder, Stmt.preorder, children, Stmt.children, preorderExpr?_eq, preorderBlock?_eq]
  | item i =>
    cases i <;>
      simp [preorder, Item.preorder, children, Item.children, preorderItems_eq, preorderExpr?_eq,
        preorderBlock?_eq]

end TreeLint
