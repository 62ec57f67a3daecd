import TreeLint.Document
import TreeLint.Span

/-!
# The semantic tree

The tree of a compilation unit: items, statements and expressions, each with its span. A value that
the compiler passes through without interpreting it (a literal, an operator, a definition id, the
name of a pattern) is kept as a document; null stands for its absence.

A block carries two spans: that of its braces and that of the block as an expression.

A node of each sort may be foreign, that is, of a kind that this model does not have. Of a foreign
node nothing is known but the name of its kind and its span.

## Main definitions

* `Pattern`, `Param`, `TypeRef`, `TraitRef`: the parts that are not nodes
* `NodeSort`: the three sorts of nodes
* `Expr`, `Block`, `Stmt`, `Item`: the nodes of the tree
* `LangItems`: the definition ids of the traits for indexing
* `CompilationUnit`: the items of a unit with its resolution tables
-/

namespace TreeLint

/-- Whether the safety checks of the compiler apply. -/
inductive Safety where
  | safe
  | unchecked
  deriving DecidableEq, Repr

/-- The word for a safety. -/
def Safety.name : Safety → String
  | .safe => "safe"
  | .unchecked => "unsafe"

/-- Whether a block opts out of safety checks, and who asked for it. -/
inductive BlockMode where
  | checked
  | uncheckedByUser
  | uncheckedByCompiler
  deriving DecidableEq, Repr

/-- The word for a block mode. -/
def BlockMode.name : BlockMode → String
  | .checked => "default"
  | .uncheckedByUser => "unsafe_user"
  | .uncheckedByCompiler => "unsafe_compiler"

instance : Vocabulary BlockMode :=
  ⟨"BlockCheckMode", [.checked, .uncheckedByUser, .uncheckedByCompiler], BlockMode.name⟩

/-- A closure is an ordinary one or a coroutine. -/
inductive ClosureKind where
  | closure
  | coroutine
  deriving DecidableEq, Repr

/-- The word for a kind of closure. -/
def ClosureKind.name : ClosureKind → String
  | .closure => "closure"
  | .coroutine => "coroutine"

instance : Vocabulary ClosureKind := ⟨"ClosureKind", [.closure, .coroutine], ClosureKind.name⟩

/-- The kinds of pattern. -/
inductive PatternKind where
  | wild
  | binding
  | tuple
  | struct
  | ref
  | literal
  deriving DecidableEq, Repr

/-- The word for a kind of pattern. -/
def PatternKind.name : PatternKind → String
  | .wild => "wild"
  | .binding => "binding"
  | .tuple => "tuple"
  | .struct => "struct"
  | .ref => "ref"
  | .literal => "literal"

instance : Vocabulary PatternKind :=
  ⟨"PatKind", [.wild, .binding, .tuple, .struct, .ref, .literal], PatternKind.name⟩

/-- A pattern with its subpatterns. -/
inductive Pattern where
  | mk (kind : PatternKind) (span : Span) (name : Document) (subpatterns : List Pattern)

namespace Pattern

/-- The kind of a pattern. -/
def kind : Pattern → PatternKind
  | .mk kind _ _ _ => kind

/-- The span of a pattern. -/
def span : Pattern → Span
  | .mk _ span _ _ => span

/-- Whether the pattern binds nothing. -/
def isWild (p : Pattern) : Bool :=
  p.kind == .wild

end Pattern

/-- A parameter of a function or closure. The type span is absent or empty when no type was written;
it may also repeat the span of the pattern when the type was inferred. -/
structure Param where
  pattern : Pattern
  typeSpan : Option Span

/-- A type as written. -/
structure TypeRef where
  text : String
  span : Span

/-- A reference to a trait. -/
structure TraitRef where
  path : String
  span : Span
  defId : Document

/-- The sorts of nodes. -/
inductive NodeSort where
  | expression
  | statement
  | item
  deriving DecidableEq, Repr

namespace NodeSort

/-- The word for a sort inside a sentence. -/
def name : NodeSort → String
  | .expression => "expression"
  | .statement => "statement"
  | .item => "item"

/-- The word for a sort at the start of a sentence. -/
def title : NodeSort → String
  | .expression => "Expression"
  | .statement => "Statement"
  | .item => "Item"

end NodeSort

mutual

/-- Expressions. -/
inductive Expr where
  | literal (value : Document) (span : Span)
  | path (segments : List String) (span : Span) (defId : Document)
  | unary (op : Document) (operand : Expr) (span : Span)
  | binary (op : Document) (lhs rhs : Expr) (span : Span)
  | addrOf (operand : Expr) (span : Span) (mutable : Bool)
  | field (target : Expr) (name : String) (span : Span)
  | call (callee : Expr) (args : List Expr) (span : Span)
  | methodCall (receiver : Expr) (method : String) (args : List Expr) (span : Span)
  | index (target operand : Expr) (span : Span)
  | range (span : Span) (start stop : Option Expr) (inclusive : Bool)
  | closure (params : List Param) (body : Expr) (span : Span) (kind : ClosureKind)
  | block (block : Block)
  | conditional (condition : Expr) (consequence : Block) (span : Span) (alternative : Option Expr)
  | array (elements : List Expr) (span : Span)
  | ret (span : Span) (value : Option Expr)
  /-- An expression of a kind outside the tree model. -/
  | foreign (kindName : String) (span : Span)

/-- A block of statements with an optional tail expression. -/
inductive Block where
  | mk (stmts : List Stmt) (braces : Span) (tail : Option Expr) (mode : BlockMode) (span : Span)

/-- Statements. -/
inductive Stmt where
  | binding (pattern : Pattern) (span : Span) (type : Option TypeRef) (init : Option Expr)
      (otherwise : Option Block)
  | expr (expr : Expr) (span : Span) (semicolon : Bool)
  | item (item : Item) (span : Span)
  /-- A statement of a kind outside the tree model. -/
  | foreign (kindName : String) (span : Span)

/-- Items. -/
inductive Item where
  | function (name : String) (span : Span) (safety : Safety) (params : List Param)
      (body : Option Block)
  | trait (name : String) (span : Span) (safety : Safety) (items : List Item)
  | implementation (selfType : String) (span : Span) (ofTrait : Option TraitRef) (safety : Safety)
      (items : List Item)
  | struct (name : String) (span : Span)
  | submodule (name : String) (span : Span) (items : List Item)
  | constant (name : String) (span : Span) (type : Option TypeRef) (value : Option Expr)
  | typeAlias (name : String) (span : Span) (type : Option TypeRef)
  /-- An item of a kind outside the tree model. -/
  | foreign (kindName : String) (span : Span)

end

/-- The mode of a block. -/
def Block.mode : Block → BlockMode
  | .mk _ _ _ mode _ => mode

/-- The span of a block as an expression. -/
def Block.span : Block → Span
  | .mk _ _ _ _ span => span

/-- The span of the braces of a block. -/
def Block.braces : Block → Span
  | .mk _ braces _ _ _ => braces

/-- The span of an expression. -/
def Expr.span : Expr → Span
  | .literal _ span => span
  | .path _ span _ => span
  | .unary _ _ span => span
  | .binary _ _ _ span => span
  | .addrOf _ span _ => span
  | .field _ _ span => span
  | .call _ _ span => span
  | .methodCall _ _ _ span => span
  | .index _ _ span => span
  | .range span _ _ _ => span
  | .closure _ _ span _ => span
  | .block b => b.span
  | .conditional _ _ span _ => span
  | .array _ span => span
  | .ret span _ => span
  | .foreign _ span => span

/-- The span of a statement. -/
def Stmt.span : Stmt → Span
  | .binding _ span _ _ _ => span
  | .expr _ span _ => span
  | .item _ span => span
  | .foreign _ span => span

/-- The span of an item. -/
def Item.span : Item → Span
  | .function _ span _ _ _ => span
  | .trait _ span _ _ => span
  | .implementation _ span _ _ _ => span
  | .struct _ span => span
  | .submodule _ span _ => span
  | .constant _ span _ _ => span
  | .typeAlias _ span _ => span
  | .foreign _ span => span

/-- The traits for indexing that a unit names by definition ids. -/
inductive LangItem where
  | index
  | indexMut
  deriving DecidableEq, Repr

/-- The word for a trait for indexing. -/
def LangItem.name : LangItem → String
  | .index => "index"
  | .indexMut => "index_mut"

instance : Vocabulary LangItem := ⟨"LangItem", [.index, .indexMut], LangItem.name⟩

/-- The definition ids of the traits for indexing. -/
structure LangItems where
  index : String := "core::ops::Index"
  indexMut : String := "core::ops::IndexMut"
  deriving DecidableEq, Repr

namespace LangItems

/-- The definition id of a trait. -/
def get (items : LangItems) : LangItem → String
  | .index => items.index
  | .indexMut => items.indexMut

/-- The table with another definition id for a trait. -/
def set (items : LangItems) (id : String) : LangItem → LangItems
  | .index => { items with index := id }
  | .indexMut => { items with indexMut := id }

end LangItems

/-- The items of a unit with its resolution tables. -/
structure CompilationUnit where
  name : String
  items : List Item
  definitions : List (String × String)
  langItems : LangItems

namespace CompilationUnit

/-- The trait for indexing that a definition id stands for. Only a text can be a definition id. -/
def langItem? (unit : CompilationUnit) : Document → Option LangItem
  | .str id =>
    if unit.langItems.index = id then some .index
    else if unit.langItems.indexMut = id then some .indexMut
    else none
  | _ => none

/-- The result of looking up a definition id. -/
inductive Resolution where
  /-- The id stands for a definition with this path. -/
  | path (path : String)
  /-- The unit does not define the id. -/
  | unknown
  /-- An array or object cannot be looked up. -/
  | notAKey
  deriving DecidableEq, Repr

/-- The path of a definition. Only a text can be a definition id. -/
def resolve (unit : CompilationUnit) : Document → Resolution
  | .str id => match unit.definitions.lookup id with
    | some path => .path path
    | none => .unknown
  | .arr _ => .notAKey
  | .obj _ => .notAKey
  | _ => .unknown

end CompilationUnit

end TreeLint
