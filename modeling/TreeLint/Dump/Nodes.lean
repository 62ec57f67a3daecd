import TreeLint.Dump.Kind
import TreeLint.Dump.Parts

/-!
# Reading nodes

Expressions, statements and items name their kind, which decides which fields are consulted and in
which order. The reading of a document is determined by the readings of its parts, so it is defined
by recursion on the document, one layer at a time.

## Main definitions

* `readExpr`, `readStmt`, `readItem`, `readBlock`: the nodes of one layer
* `readSequence`: the sequences of one layer
* `read`: the reading of a document

## Main results

* `readAll_eq_map`, `readFields_eq_map`: elements and fields are read one by one
-/

namespace TreeLint.Dump

/-! ## One layer -/

/-- A block, whose kind is not asked for. -/
def readBlock (d : Document) (fields : Fields) : Except Fault Block :=
  match d with
  | .obj _ => do
    let span ← fields.get "span" Reading.span
    let stmts ← fields.sequence "stmts" Reading.stmts
    let tail ← fields.optional "expr" Reading.expr
    let mode ← readMember (fields.valueOr "rules" (.str BlockMode.checked.name))
    pure (.mk stmts span tail mode span)
  | _ => .error (.notAMapping .block d)

/-- The segments of a path expression, given one by one or as a text. -/
def readSegments (fields : Fields) : Except Fault (List String) :=
  match fields.given? "segments" with
  | some part => readTexts part.document
  | none => do
    let path ← fields.text "path"
    pure ((Text.segments path.toList).map String.ofList)

/-- An expression of a kind. -/
def readExprOf (d : Document) (fields : Fields) : ExprKind → Except Fault Expr
  | .literal => do
    let span ← fields.get "span" Reading.span
    pure (.literal (fields.value "value") span)
  | .path => do
    let segments ← readSegments fields
    let span ← fields.get "span" Reading.span
    pure (.path segments span (fields.value "def_id"))
  | .unary => do
    let operand ← fields.get "operand" Reading.expr
    let span ← fields.get "span" Reading.span
    pure (.unary (fields.valueOr "op" (.str "!")) operand span)
  | .binary => do
    let lhs ← fields.get "lhs" Reading.expr
    let rhs ← fields.get "rhs" Reading.expr
    let span ← fields.get "span" Reading.span
    pure (.binary (fields.valueOr "op" (.str "+")) lhs rhs span)
  | .addrOf => do
    let operand ← fields.get "operand" Reading.expr
    let span ← fields.get "span" Reading.span
    pure (.addrOf operand span (fields.value "mutable").holds)
  | .field => do
    let target ← fields.get "target" Reading.expr
    let name ← fields.text "name"
    let span ← fields.get "span" Reading.span
    pure (.field target name span)
  | .call => do
    let callee ← fields.get "func" Reading.expr
    let args ← fields.sequence "args" Reading.exprs
    let span ← fields.get "span" Reading.span
    pure (.call callee args span)
  | .methodCall => do
    let receiver ← fields.get "receiver" Reading.expr
    let method ← fields.text "method"
    let args ← fields.sequence "args" Reading.exprs
    let span ← fields.get "span" Reading.span
    pure (.methodCall receiver method args span)
  | .index => do
    let target ← fields.get "target" Reading.expr
    let operand ← fields.get "index" Reading.expr
    let span ← fields.get "span" Reading.span
    pure (.index target operand span)
  | .range => do
    let span ← fields.get "span" Reading.span
    let start ← fields.optional "start" Reading.expr
    let stop ← fields.optional "end" Reading.expr
    pure (.range span start stop (fields.value "inclusive").holds)
  | .closure => do
    let params ← fields.sequence "params" Reading.params
    let body ← fields.get "body" Reading.expr
    let span ← fields.get "span" Reading.span
    let kind ← readMember (fields.valueOr "closure_kind" (.str ClosureKind.closure.name))
    pure (.closure params body span kind)
  | .block => do
    let block ← readBlock d fields
    pure (.block block)
  | .conditional => do
    let condition ← fields.get "cond" Reading.expr
    let consequence ← fields.get "then" Reading.block
    let span ← fields.get "span" Reading.span
    let alternative ← fields.optional "else" Reading.expr
    pure (.conditional condition consequence span alternative)
  | .array => do
    let elements ← fields.sequence "elements" Reading.exprs
    let span ← fields.get "span" Reading.span
    pure (.array elements span)
  | .ret => do
    let span ← fields.get "span" Reading.span
    let value ← fields.optional "value" Reading.expr
    pure (.ret span value)

/-- A statement of a kind. -/
def readStmtOf (fields : Fields) : StmtKind → Except Fault Stmt
  | .binding => do
    let pattern ← fields.get "pat" Reading.pattern
    let span ← fields.get "span" Reading.span
    let type ← fields.optional "ty" Reading.typeRef
    let init ← fields.optional "init" Reading.expr
    let otherwise ← fields.optional "else" Reading.block
    pure (.binding pattern span type init otherwise)
  | .expr => do
    let expr ← fields.get "expr" Reading.expr
    let span ← fields.get "span" Reading.span
    pure (.expr expr span (fields.valueOr "semi" (.bool true)).holds)
  | .item => do
    let item ← fields.get "item" Reading.item
    let span ← fields.get "span" Reading.span
    pure (.item item span)

/-- An item of a kind. -/
def readItemOf (fields : Fields) : ItemKind → Except Fault Item
  | .function => do
    let name ← fields.text "name"
    let span ← fields.get "span" Reading.span
    let params ← fields.sequence "params" Reading.params
    let body ← fields.optional "body" Reading.block
    pure (.function name span fields.safety params body)
  | .trait => do
    let name ← fields.text "name"
    let span ← fields.get "span" Reading.span
    let items ← fields.sequence "items" Reading.items
    pure (.trait name span fields.safety items)
  | .implementation => do
    let ofTrait ← fields.optional "trait" Reading.traitRef
    let selfType := (fields.valueOr "self_ty" (.str "")).text
    let span ← fields.get "span" Reading.span
    let items ← fields.sequence "items" Reading.items
    pure (.implementation selfType span ofTrait fields.safety items)
  | .struct => do
    let name ← fields.text "name"
    let span ← fields.get "span" Reading.span
    pure (.struct name span)
  | .submodule => do
    let name ← fields.text "name"
    let span ← fields.get "span" Reading.span
    let items ← fields.sequence "items" Reading.items
    pure (.submodule name span items)
  | .constant => do
    let name ← fields.text "name"
    let span ← fields.get "span" Reading.span
    let type ← fields.optional "ty" Reading.typeRef
    let value ← fields.optional "value" Reading.expr
    pure (.constant name span type value)
  | .typeAlias => do
    let name ← fields.text "name"
    let span ← fields.get "span" Reading.span
    let type ← fields.optional "ty" Reading.typeRef
    pure (.typeAlias name span type)

/-- A node of a sort: an object that names a kind of the sort. A field that is missing in the node,
or in a part of it that is no node, is attributed to the node. -/
def readNode {κ α : Type} [Vocabulary κ] (sort : NodeSort) (d : Document) (fields : Fields)
    (build : κ → Except Fault α) : Except Fault α :=
  match d with
  | .obj _ =>
    match fields.value "kind" with
    | .str word => match Vocabulary.find? word with
      | some kind => (build kind).mapError (Fault.within sort word)
      | none => .error (.unknownKind sort (.str word))
    | .arr ds => .error (.compoundKind (.arr ds))
    | .obj fs => .error (.compoundKind (.obj fs))
    | kind => .error (.unknownKind sort kind)
  | _ => .error (.notANode sort d)

/-- An expression. -/
def readExpr (d : Document) (fields : Fields) : Except Fault Expr :=
  readNode .expression d fields (readExprOf d fields)

/-- A statement. -/
def readStmt (d : Document) (fields : Fields) : Except Fault Stmt :=
  readNode .statement d fields (readStmtOf fields)

/-- An item. -/
def readItem (d : Document) (fields : Fields) : Except Fault Item :=
  readNode .item d fields (readItemOf fields)

/-! ## Sequences and whole documents -/

/-- A sequence. A text is the sequence of its characters, an object the sequence of its keys, and a
value that does not count as given the empty sequence; other values are no sequences. -/
def readSequence {α : Type} (d : Document) (parts : List Part) (role : Reading → Except Fault α)
    (ofText : Document → Fields → Except Fault α) : Except Fault (List α) :=
  match d with
  | .arr _ => parts.mapM fun part => role part.reading
  | .str s => s.toList.mapM fun c => ofText (.str (String.singleton c)) []
  | .obj fs => fs.mapM fun field => ofText (.str field.1) []
  | _ => if d.holds then .error (.notASequence d) else .ok []

/-- The reading of a document from those of its elements and fields. -/
def Reading.ofParts (file : String) (d : Document) (parts : List Part) (fields : Fields) :
    Reading where
  span := readSpan file d fields
  origin := readOrigin d fields
  writtenSpan := readWrittenSpan d fields
  typeRef := readTypeRef d fields
  traitRef := readTraitRef d fields
  pattern := readPattern d fields
  patterns := readSequence d parts Reading.pattern readPattern
  param := readParam d fields
  params := readSequence d parts Reading.param readParam
  block := readBlock d fields
  expr := readExpr d fields
  exprs := readSequence d parts Reading.expr readExpr
  stmt := readStmt d fields
  stmts := readSequence d parts Reading.stmt readStmt
  item := readItem d fields
  items := readSequence d parts Reading.item readItem

mutual

/-- The reading of a document in a dump of the file. -/
def read (file : String) : Document → Reading
  | .arr ds => .ofParts file (.arr ds) (readAll file ds) []
  | .obj fs => .ofParts file (.obj fs) [] (readFields file fs)
  | .null => .ofParts file .null [] []
  | .bool b => .ofParts file (.bool b) [] []
  | .int n => .ofParts file (.int n) [] []
  | .real x => .ofParts file (.real x) [] []
  | .str s => .ofParts file (.str s) [] []

/-- The readings of the elements of an array. -/
def readAll (file : String) : List Document → List Part
  | [] => []
  | d :: ds => ⟨d, read file d⟩ :: readAll file ds

/-- The readings of the fields of an object. -/
def readFields (file : String) : List (String × Document) → Fields
  | [] => []
  | (key, d) :: fs => (key, ⟨d, read file d⟩) :: readFields file fs

end

/-- The elements of an array are read one by one. -/
theorem readAll_eq_map (file : String) (ds : List Document) :
    readAll file ds = ds.map fun d => ⟨d, read file d⟩ := by
  induction ds with
  | nil => rfl
  | cons d ds ih => simp [readAll, ih]

/-- The fields of an object are read one by one. -/
theorem readFields_eq_map (file : String) (fs : List (String × Document)) :
    readFields file fs = fs.map fun f => (f.1, ⟨f.2, read file f.2⟩) := by
  induction fs with
  | nil => rfl
  | cons f fs ih => simp [readFields, ih]

end TreeLint.Dump
