import TreeLint.Dump.Kind
import TreeLint.Tree

/-!
# Writing units as dumps

The dump that writes a unit: every node is an object that names its kind, every span is an object
with its file and its whole chain of call sites, and the tables are written out. Parts that are
absent are left out.

## Main definitions

* `writeSpan`: a span with its chain of call sites
* `writeExpr`, `writeBlock`, `writeStmt`, `writeItem`: the nodes
* `writeUnit`: the dump of a unit

## Main results

* `writeExprs_eq_map`, `writeStmts_eq_map`, `writeItems_eq_map`: nodes in sequence are written one
  by one
-/

namespace TreeLint.Dump

/-- The fields of a region. -/
def regionFields (r : Region) : List (String × Document) :=
  [("file", .str r.file), ("line", .int r.line), ("column", .int r.column),
    ("end_line", .int r.endLine), ("end_column", .int r.endColumn)]

/-- A span with its chain of call sites. -/
def writeSpan : Span → Document
  | .written r => .obj (regionFields r)
  | .expanded r name site =>
    .obj (regionFields r ++ [("origin", .obj [("kind", .str "macro"), ("macro", .str name),
      ("call_site", writeSpan site)])])
  | .lowered r kind =>
    .obj (regionFields r ++ [("origin", .obj [("kind", .str "desugared"),
      ("desugaring", .str kind.name)])])
  | .loweredAt r kind site =>
    .obj (regionFields r ++ [("origin", .obj [("kind", .str "desugared"),
      ("desugaring", .str kind.name), ("call_site", writeSpan site)])])

/-- A field that is left out when its part is absent. -/
def optionalField (key : String) (d : Option Document) : List (String × Document) :=
  (d.map fun d => (key, d)).toList

/-- A type as written. -/
def writeTypeRef (t : TypeRef) : Document :=
  .obj [("text", .str t.text), ("span", writeSpan t.span)]

/-- A reference to a trait. -/
def writeTraitRef (t : TraitRef) : Document :=
  .obj [("path", .str t.path), ("span", writeSpan t.span), ("def_id", t.defId)]

mutual

/-- A pattern. -/
def writePattern : Pattern → Document
  | .mk kind span name subpatterns =>
    .obj [("kind", .str kind.name), ("span", writeSpan span), ("name", name),
      ("subpatterns", .arr (writePatterns subpatterns))]

/-- Patterns in sequence. -/
def writePatterns : List Pattern → List Document
  | [] => []
  | p :: ps => writePattern p :: writePatterns ps

end

/-- A parameter. -/
def writeParam (p : Param) : Document :=
  .obj ([("pat", writePattern p.pattern)] ++ optionalField "ty_span" (p.typeSpan.map writeSpan))

/-- The marker of a node that states its safety. -/
def writeSafety (safety : Safety) : String × Document :=
  ("unsafe", .bool (safety == .unchecked))

/-- The field that names the kind of a node, followed by its span. -/
def nodeFields {κ : Type} [Vocabulary κ] (kind : κ) (span : Span) : List (String × Document) :=
  [("kind", .str (Vocabulary.spelling kind)), ("span", writeSpan span)]

/-- What is known of a foreign node. No dump expresses such a node. -/
def writeForeign (kindName : String) (span : Span) : Document :=
  .obj [("kind", .str kindName), ("span", writeSpan span)]

mutual

/-- An expression. -/
def writeExpr : Expr → Document
  | .literal value span => .obj (nodeFields ExprKind.literal span ++ [("value", value)])
  | .path segments span defId =>
    .obj (nodeFields ExprKind.path span ++
      [("segments", .arr (segments.map .str)), ("def_id", defId)])
  | .unary op operand span =>
    .obj (nodeFields ExprKind.unary span ++ [("op", op), ("operand", writeExpr operand)])
  | .binary op lhs rhs span =>
    .obj (nodeFields ExprKind.binary span ++
      [("op", op), ("lhs", writeExpr lhs), ("rhs", writeExpr rhs)])
  | .addrOf operand span mutable =>
    .obj (nodeFields ExprKind.addrOf span ++
      [("operand", writeExpr operand), ("mutable", .bool mutable)])
  | .field target name span =>
    .obj (nodeFields ExprKind.field span ++ [("target", writeExpr target), ("name", .str name)])
  | .call callee args span =>
    .obj (nodeFields ExprKind.call span ++
      [("func", writeExpr callee), ("args", .arr (writeExprs args))])
  | .methodCall receiver method args span =>
    .obj (nodeFields ExprKind.methodCall span ++
      [("receiver", writeExpr receiver), ("method", .str method), ("args", .arr (writeExprs args))])
  | .index target operand span =>
    .obj (nodeFields ExprKind.index span ++
      [("target", writeExpr target), ("index", writeExpr operand)])
  | .range span start stop inclusive =>
    .obj (nodeFields ExprKind.range span ++ [("inclusive", .bool inclusive)] ++
      optionalField "start" (writeExpr? start) ++ optionalField "end" (writeExpr? stop))
  | .closure params body span kind =>
    .obj (nodeFields ExprKind.closure span ++
      [("params", .arr (params.map writeParam)), ("body", writeExpr body),
        ("closure_kind", .str kind.name)])
  | .block b => writeBlock b
  | .conditional condition consequence span alternative =>
    .obj (nodeFields ExprKind.conditional span ++
      [("cond", writeExpr condition), ("then", writeBlock consequence)] ++
      optionalField "else" (writeExpr? alternative))
  | .array elements span =>
    .obj (nodeFields ExprKind.array span ++ [("elements", .arr (writeExprs elements))])
  | .ret span value =>
    .obj (nodeFields ExprKind.ret span ++ optionalField "value" (writeExpr? value))
  | .foreign kindName span => writeForeign kindName span

/-- A block, whose two spans are written as one. -/
def writeBlock : Block → Document
  | .mk stmts _ tail mode span =>
    .obj (nodeFields ExprKind.block span ++
      [("stmts", .arr (writeStmts stmts)), ("rules", .str mode.name)] ++
      optionalField "expr" (writeExpr? tail))

/-- A statement. -/
def writeStmt : Stmt → Document
  | .binding pattern span type init otherwise =>
    .obj (nodeFields StmtKind.binding span ++ [("pat", writePattern pattern)] ++
      optionalField "ty" (type.map writeTypeRef) ++ optionalField "init" (writeExpr? init) ++
      optionalField "else" (writeBlock? otherwise))
  | .expr e span semicolon =>
    .obj (nodeFields StmtKind.expr span ++ [("expr", writeExpr e), ("semi", .bool semicolon)])
  | .item i span => .obj (nodeFields StmtKind.item span ++ [("item", writeItem i)])
  | .foreign kindName span => writeForeign kindName span

/-- An item. -/
def writeItem : Item → Document
  | .function name span safety params body =>
    .obj (nodeFields ItemKind.function span ++
      [("name", .str name), writeSafety safety, ("params", .arr (params.map writeParam))] ++
      optionalField "body" (writeBlock? body))
  | .trait name span safety items =>
    .obj (nodeFields ItemKind.trait span ++
      [("name", .str name), writeSafety safety, ("items", .arr (writeItems items))])
  | .implementation selfType span ofTrait safety items =>
    .obj (nodeFields ItemKind.implementation span ++
      [("self_ty", .str selfType), writeSafety safety, ("items", .arr (writeItems items))] ++
      optionalField "trait" (ofTrait.map writeTraitRef))
  | .struct name span => .obj (nodeFields ItemKind.struct span ++ [("name", .str name)])
  | .submodule name span items =>
    .obj (nodeFields ItemKind.submodule span ++
      [("name", .str name), ("items", .arr (writeItems items))])
  | .constant name span type value =>
    .obj (nodeFields ItemKind.constant span ++ [("name", .str name)] ++
      optionalField "ty" (type.map writeTypeRef) ++ optionalField "value" (writeExpr? value))
  | .typeAlias name span type =>
    .obj (nodeFields ItemKind.typeAlias span ++ [("name", .str name)] ++
      optionalField "ty" (type.map writeTypeRef))
  | .foreign kindName span => writeForeign kindName span

/-- An expression that may be absent. -/
def writeExpr? : Option Expr → Option Document
  | none => none
  | some e => some (writeExpr e)

/-- A block that may be absent. -/
def writeBlock? : Option Block → Option Document
  | none => none
  | some b => some (writeBlock b)

/-- Expressions in sequence. -/
def writeExprs : List Expr → List Document
  | [] => []
  | e :: es => writeExpr e :: writeExprs es

/-- Statements in sequence. -/
def writeStmts : List Stmt → List Document
  | [] => []
  | s :: ss => writeStmt s :: writeStmts ss

/-- Items in sequence. -/
def writeItems : List Item → List Document
  | [] => []
  | i :: is => writeItem i :: writeItems is

end

/-- Nodes in sequence are written one by one. -/
theorem writeExprs_eq_map (es : List Expr) : writeExprs es = es.map writeExpr := by
  induction es with
  | nil => rfl
  | cons e es ih => rw [writeExprs, ih, List.map_cons]

theorem writeStmts_eq_map (ss : List Stmt) : writeStmts ss = ss.map writeStmt := by
  induction ss with
  | nil => rfl
  | cons s ss ih => rw [writeStmts, ih, List.map_cons]

theorem writeItems_eq_map (is : List Item) : writeItems is = is.map writeItem := by
  induction is with
  | nil => rfl
  | cons i is ih => rw [writeItems, ih, List.map_cons]

theorem writeExpr?_eq_map (e : Option Expr) : writeExpr? e = e.map writeExpr := by
  cases e <;> rfl

theorem writeBlock?_eq_map (b : Option Block) : writeBlock? b = b.map writeBlock := by
  cases b <;> rfl

/-- The dump of a unit. -/
def writeUnit (unit : CompilationUnit) : Document :=
  .obj [("unit", .str unit.name), ("items", .arr (writeItems unit.items)),
    ("definitions", .obj (unit.definitions.map fun d => (d.1, .str d.2))),
    ("lang_items", .obj [("index", .str unit.langItems.index),
      ("index_mut", .str unit.langItems.indexMut)])]

end TreeLint.Dump
