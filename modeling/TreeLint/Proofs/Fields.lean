import TreeLint.Tree.Preorder

/-!
# The fields of a node

A node is its kind and the values of its fields, in the order in which the kind declares them. Some
fields hold nodes: one node, a node that may be absent, or a sequence of nodes. A block as an
expression has the fields of its block. The nodes that a node holds are read off its fields, without
regard to its kind.

## Main definitions

* `FieldValue`: the value of a field, of one of the types that fields have
* `FieldValue.nodes`: the nodes in the value of a field
* `Node.fields`: the values of all fields of a node
* `Node.held`: the nodes that a node holds in its fields

## Main results

* `Node.eq_of_fields`: a node is determined by its kind and its fields
* `Node.held_eq_children`: the children of a node are all nodes that it holds
-/

namespace TreeLint

/-- The value of a field of a node. -/
inductive FieldValue where
  | document (value : Document)
  | text (value : String)
  | texts (values : List String)
  | flag (value : Bool)
  | span (value : Span)
  | pattern (value : Pattern)
  | params (values : List Param)
  | type? (value : Option TypeRef)
  | trait? (value : Option TraitRef)
  | closureKind (value : ClosureKind)
  | blockMode (value : BlockMode)
  | safety (value : Safety)
  | expr (value : Expr)
  | expr? (value : Option Expr)
  | exprs (values : List Expr)
  | block (value : Block)
  | block? (value : Option Block)
  | stmts (values : List Stmt)
  | item (value : Item)
  | items (values : List Item)
  /-- The sort of a foreign node, which its kind does not tell. -/
  | sort (value : NodeSort)

/-- The nodes in the value of a field, in order. -/
def FieldValue.nodes : FieldValue → List Node
  | .expr e => [.expr e]
  | .expr? e => e.toList.map .expr
  | .exprs es => es.map .expr
  | .block b => [.expr (.block b)]
  | .block? b => b.toList.map fun b => .expr (.block b)
  | .stmts ss => ss.map .stmt
  | .item i => [.item i]
  | .items is => is.map .item
  | _ => []

/-- Whether the value is the sort of a foreign node. -/
def FieldValue.isSort : FieldValue → Bool
  | .sort _ => true
  | _ => false

/-- The fields of a block. -/
def Block.fields : Block → List FieldValue
  | .mk stmts braces tail mode span =>
    [.stmts stmts, .span braces, .expr? tail, .blockMode mode, .span span]

/-- The fields of an expression. -/
def Expr.fields : Expr → List FieldValue
  | .literal value span => [.document value, .span span]
  | .path segments span defId => [.texts segments, .span span, .document defId]
  | .unary op operand span => [.document op, .expr operand, .span span]
  | .binary op lhs rhs span => [.document op, .expr lhs, .expr rhs, .span span]
  | .addrOf operand span mutable => [.expr operand, .span span, .flag mutable]
  | .field target name span => [.expr target, .text name, .span span]
  | .call callee args span => [.expr callee, .exprs args, .span span]
  | .methodCall receiver method args span =>
    [.expr receiver, .text method, .exprs args, .span span]
  | .index target operand span => [.expr target, .expr operand, .span span]
  | .range span start stop inclusive =>
    [.span span, .expr? start, .expr? stop, .flag inclusive]
  | .closure params body span kind =>
    [.params params, .expr body, .span span, .closureKind kind]
  | .block b => b.fields
  | .conditional condition consequence span alternative =>
    [.expr condition, .block consequence, .span span, .expr? alternative]
  | .array elements span => [.exprs elements, .span span]
  | .ret span value => [.span span, .expr? value]
  | .foreign _ span => [.sort .expression, .span span]

/-- The fields of a statement. -/
def Stmt.fields : Stmt → List FieldValue
  | .binding pattern span type init otherwise =>
    [.pattern pattern, .span span, .type? type, .expr? init, .block? otherwise]
  | .expr e span semicolon => [.expr e, .span span, .flag semicolon]
  | .item i span => [.item i, .span span]
  | .foreign _ span => [.sort .statement, .span span]

/-- The fields of an item. -/
def Item.fields : Item → List FieldValue
  | .function name span safety params body =>
    [.text name, .span span, .safety safety, .params params, .block? body]
  | .trait name span safety items => [.text name, .span span, .safety safety, .items items]
  | .implementation selfType span ofTrait safety items =>
    [.text selfType, .span span, .trait? ofTrait, .safety safety, .items items]
  | .struct name span => [.text name, .span span]
  | .submodule name span items => [.text name, .span span, .items items]
  | .constant name span type value => [.text name, .span span, .type? type, .expr? value]
  | .typeAlias name span type => [.text name, .span span, .type? type]
  | .foreign _ span => [.sort .item, .span span]

namespace Node

/-- The fields of a node. Of a foreign node only the sort and the span are known. -/
def fields : Node → List FieldValue
  | .expr e => e.fields
  | .stmt s => s.fields
  | .item i => i.fields

/-- The nodes that a node holds in its fields, in the order of the fields. -/
def held (n : Node) : List Node :=
  n.fields.flatMap FieldValue.nodes

end Node

/-! ## A node is its kind and its fields -/

theorem Block.eq_of_fields {a b : Block} (hf : a.fields = b.fields) : a = b := by
  cases a
  cases b
  simpa [fields] using hf

/-- An expression is determined by its kind and its fields. -/
theorem Expr.eq_of_fields {a b : Expr} (hk : a.kindName = b.kindName) (hf : a.fields = b.fields) :
    a = b := by
  cases a with
  | block a =>
    cases b with
    | block b => rw [Block.eq_of_fields hf]
    | foreign name span =>
      cases a
      simp [fields, Block.fields] at hf
    | _ => simp [kindName] at hk
  | foreign name span =>
    cases b with
    | block b =>
      cases b
      simp [fields, Block.fields] at hf
    | _ => simp_all [kindName, fields]
  | _ => cases b <;> simp_all [kindName, fields]

theorem Stmt.eq_of_fields {a b : Stmt} (hk : a.kindName = b.kindName) (hf : a.fields = b.fields) :
    a = b := by
  cases a <;> cases b <;> simp_all [kindName, fields]

theorem Item.eq_of_fields {a b : Item} (hk : a.kindName = b.kindName) (hf : a.fields = b.fields) :
    a = b := by
  cases a <;> cases b <;> simp_all [kindName, fields]

namespace Node

/-! ## Foreign nodes -/

/-- A foreign node is one of a sort, a kind and a span, and nothing else. -/
theorem exists_of_isForeign {n : Node} (h : n.isForeign) :
    ∃ kindName span, n = .expr (.foreign kindName span) ∨ n = .stmt (.foreign kindName span) ∨
      n = .item (.foreign kindName span) := by
  unfold isForeign at h
  split at h
  · exact ⟨_, _, .inl rfl⟩
  · exact ⟨_, _, .inr (.inl rfl)⟩
  · exact ⟨_, _, .inr (.inr rfl)⟩
  · cases h

/-- The nodes of the model state no sort in their fields, since their kinds tell it. -/
theorem isForeign_eq_any (n : Node) : n.isForeign = n.fields.any FieldValue.isSort := by
  rcases n with e | s | i
  · rcases e with _ | _ | _ | _ | _ | _ | _ | _ | _ | _ | _ | ⟨⟨⟩⟩ | _ <;> rfl
  · cases s <;> rfl
  · cases i <;> rfl

/-- No kind of expression is named like a kind of statement. -/
theorem kindName_expr_ne_stmt {e : Expr} {s : Stmt} (he : isForeign (.expr e) = false)
    (hs : isForeign (.stmt s) = false) : e.kindName ≠ s.kindName := by
  cases e <;> cases s <;> simp [Expr.kindName, Stmt.kindName, isForeign] at he hs ⊢

theorem kindName_expr_ne_item {e : Expr} {i : Item} (he : isForeign (.expr e) = false)
    (hi : isForeign (.item i) = false) : e.kindName ≠ i.kindName := by
  cases e <;> cases i <;> simp [Expr.kindName, Item.kindName, isForeign] at he hi ⊢

theorem kindName_stmt_ne_item {s : Stmt} {i : Item} (hs : isForeign (.stmt s) = false)
    (hi : isForeign (.item i) = false) : s.kindName ≠ i.kindName := by
  cases s <;> cases i <;> simp [Stmt.kindName, Item.kindName, isForeign] at hs hi ⊢

/-- Foreign nodes of one kind with the same fields are of one sort. -/
theorem eq_of_isForeign {m n : Node} (hm : m.isForeign) (hn : n.isForeign)
    (hk : m.kindName = n.kindName) (hf : m.fields = n.fields) : m = n := by
  obtain ⟨name, span, rfl | rfl | rfl⟩ := exists_of_isForeign hm <;>
    obtain ⟨name', span', rfl | rfl | rfl⟩ := exists_of_isForeign hn <;>
    simp [fields, Expr.fields, Stmt.fields, Item.fields, kindName, Expr.kindName, Stmt.kindName,
      Item.kindName] at hk hf ⊢ <;>
    exact ⟨hk, hf⟩

/-- A node is determined by its kind and its fields: `fields` leaves none out. -/
theorem eq_of_fields {m n : Node} (hk : m.kindName = n.kindName) (hf : m.fields = n.fields) :
    m = n := by
  have hforeign : m.isForeign = n.isForeign := by
    rw [isForeign_eq_any, isForeign_eq_any, hf]
  cases hm : m.isForeign with
  | true => exact eq_of_isForeign hm (hforeign ▸ hm) hk hf
  | false =>
    have hn : n.isForeign = false := hforeign ▸ hm
    rcases m with a | a | a <;> rcases n with b | b | b
    · rw [Expr.eq_of_fields hk hf]
    · exact absurd hk (kindName_expr_ne_stmt hm hn)
    · exact absurd hk (kindName_expr_ne_item hm hn)
    · exact absurd hk.symm (kindName_expr_ne_stmt hn hm)
    · rw [Stmt.eq_of_fields hk hf]
    · exact absurd hk (kindName_stmt_ne_item hm hn)
    · exact absurd hk.symm (kindName_expr_ne_item hn hm)
    · exact absurd hk.symm (kindName_stmt_ne_item hn hm)
    · rw [Item.eq_of_fields hk hf]

/-- The children of a node are all nodes that it holds in its fields, in their order. -/
theorem held_eq_children (n : Node) : n.held = n.children := by
  cases n with
  | expr e =>
    cases e with
    | block b =>
      cases b
      simp [held, fields, Expr.fields, Block.fields, FieldValue.nodes, children, Expr.children]
    | _ => simp [held, fields, Expr.fields, FieldValue.nodes, children, Expr.children]
  | stmt s =>
    cases s <;> simp [held, fields, Stmt.fields, FieldValue.nodes, children, Stmt.children]
  | item i =>
    cases i <;> simp [held, fields, Item.fields, FieldValue.nodes, children, Item.children]

theorem preorder_eq_held (n : Node) : n.preorder = n :: n.held.flatMap Node.preorder := by
  rw [held_eq_children, preorder_eq]

end Node

end TreeLint
