import TreeLint.Dump.Fault

/-!
# Readings

What a document means depends on the position in which it stands: as a span, an expression, a
sequence of statements and so on. A `Reading` holds its meaning in every position. The fields of an
object are consulted through their readings, and a field that is needed and missing is a fault.

## Main definitions

* `Reading`: the meaning of a document in every position
* `Part`, `Fields`: documents with their readings
* `Fields.get`, `Fields.optional`, `Fields.sequence`: consulting a field
-/

namespace TreeLint.Dump

/-- The meaning of a document in every position of a dump. -/
structure Reading where
  span : Except Fault Span
  origin : Except Fault (Origin Span)
  /-- The span of a written type. The span field is looked up first and read later. -/
  writtenSpan : Except Fault (Option (Except Fault Span))
  typeRef : Except Fault TypeRef
  traitRef : Except Fault TraitRef
  pattern : Except Fault Pattern
  patterns : Except Fault (List Pattern)
  param : Except Fault Param
  params : Except Fault (List Param)
  block : Except Fault Block
  expr : Except Fault Expr
  exprs : Except Fault (List Expr)
  stmt : Except Fault Stmt
  stmts : Except Fault (List Stmt)
  item : Except Fault Item
  items : Except Fault (List Item)

/-- A document with its reading. -/
structure Part where
  document : Document
  reading : Reading

/-- The fields of an object with their readings. -/
abbrev Fields := List (String × Part)

namespace Fields

variable {α : Type}

/-- The value of a field, or another one when the field is missing. -/
def valueOr (fields : Fields) (key : String) (default : Document) : Document :=
  match fields.lookup key with
  | some part => part.document
  | none => default

/-- The value of a field, which is null when the field is missing. -/
def value (fields : Fields) (key : String) : Document :=
  fields.valueOr key .null

/-- The field, which must be there. -/
def require (fields : Fields) (key : String) : Except Fault Part :=
  match fields.lookup key with
  | some part => .ok part
  | none => .error (.absent key)

/-- The field, unless it is missing or null. -/
def given? (fields : Fields) (key : String) : Option Part :=
  (fields.lookup key).filter fun part => !part.document.isNull

/-- The text of a field that must be there. -/
def text (fields : Fields) (key : String) : Except Fault String := do
  let part ← fields.require key
  pure part.document.text

/-- The reading of a field that must be there. -/
def get (fields : Fields) (key : String) (role : Reading → Except Fault α) : Except Fault α := do
  let part ← fields.require key
  role part.reading

/-- The reading of a field that may be missing or null. -/
def optional (fields : Fields) (key : String) (role : Reading → Except Fault α) :
    Except Fault (Option α) :=
  match fields.given? key with
  | some part => (role part.reading).map some
  | none => .ok none

/-- The reading of a field as a sequence, which is empty when the field is missing. -/
def sequence (fields : Fields) (key : String) (role : Reading → Except Fault (List α)) :
    Except Fault (List α) :=
  match fields.lookup key with
  | some part => role part.reading
  | none => .ok []

/-- The safety that the marker of a node states. -/
def safety (fields : Fields) : Safety :=
  if (fields.value "unsafe").holds then .unchecked else .safe

end Fields

end TreeLint.Dump
