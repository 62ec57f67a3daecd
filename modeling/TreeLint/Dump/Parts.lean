import TreeLint.Dump.Reading

/-!
# Reading values, spans, types and patterns

The positions of a dump that are not nodes. In each of them the parts are consulted in a fixed
order, and the first fault is the fault of the whole.

A region without a file of its own lies in the file of the dump, at whatever depth it stands.

## Main definitions

* `readInt`, `readMember`, `readTexts`: single values
* `readSpan`, `readOrigin`: spans and their origins
* `readTypeRef`, `readTraitRef`, `readPattern`, `readParam`: the parts of nodes
-/

namespace TreeLint.Dump

/-! ## Single values -/

/-- The integer that a value stands for: a truth value is zero or one, a number is cut off toward
zero, and a text is read. -/
def readInt : Document → Except Fault Int
  | .bool b => .ok (if b then 1 else 0)
  | .int n => .ok n
  | .real x => .ok x.truncate
  | .str s => match Text.readInteger s with
    | .ok n => .ok n
    | .error .malformed => .error (.notAnInteger s)
    | .error (.tooLong digits) => .error (.integerTooLong digits)
  | d => .error (.notANumber d)

/-- The member of a vocabulary that a value names. -/
def readMember {α : Type} [Vocabulary α] (d : Document) : Except Fault α :=
  match d with
  | .str word => match Vocabulary.find? word with
    | some member => .ok member
    | none => .error (.notAMember d (Vocabulary.title α))
  | _ => .error (.notAMember d (Vocabulary.title α))

/-- The texts of the elements of a sequence. A text is the sequence of its characters, and an object
the sequence of its keys. -/
def readTexts : Document → Except Fault (List String)
  | .arr ds => .ok (ds.map Document.text)
  | .str s => .ok (s.toList.map String.singleton)
  | .obj fs => .ok (fs.map Prod.fst)
  | d => .error (.notASequence d)

/-! ## Spans -/

/-- The span of an object. The end defaults to the start. -/
def readSpanFields (file : String) (fields : Fields) : Except Fault Span := do
  let inFile := (fields.valueOr "file" (.str file)).text
  let line ← fields.require "line"
  let lineNumber ← readInt line.document
  let column ← fields.require "column"
  let columnNumber ← readInt column.document
  let endLine ← readInt (fields.valueOr "end_line" line.document)
  let endColumn ← readInt (fields.valueOr "end_column" column.document)
  let origin ← match fields.lookup "origin" with
    | some part => part.reading.origin
    | none => pure .direct
  pure (.ofOrigin ⟨inFile, lineNumber, columnNumber, endLine, endColumn⟩ origin)

/-- A span: four positions in the file of the dump, or an object. -/
def readSpan (file : String) (d : Document) (fields : Fields) : Except Fault Span :=
  match d with
  | .arr [line, column, endLine, endColumn] => do
    let line ← readInt line
    let column ← readInt column
    let endLine ← readInt endLine
    let endColumn ← readInt endColumn
    pure (.written ⟨file, line, column, endLine, endColumn⟩)
  | .obj _ => readSpanFields file fields
  | _ => .error (.malformedSpan d)

/-- The origin of a span. -/
def readOrigin (d : Document) (fields : Fields) : Except Fault (Origin Span) :=
  match d with
  | .null => .ok .direct
  | .str "direct" => .ok .direct
  | .obj _ =>
    match fields.value "kind" with
    | .str "macro" => do
      let site ← fields.get "call_site" Reading.span
      pure (.expansion site (fields.valueOr "macro" (.str "")).text)
    | .str "desugared" => do
      let kind ← fields.require "desugaring"
      let kind ← readMember kind.document
      let site ← fields.optional "call_site" Reading.span
      pure (.desugared kind site)
    | kind => .error (.unknownOrigin kind)
  | _ => .error (.malformedOrigin d)

/-! ## Types, traits, patterns and parameters -/

/-- The span of a written type, read only when it is needed. -/
def readWrittenSpan (d : Document) (fields : Fields) :
    Except Fault (Option (Except Fault Span)) :=
  match d with
  | .obj _ => do
    let part ← fields.require "span"
    pure (if part.document.isNull then none else some part.reading.span)
  | _ => .error (.notAMapping .writtenType d)

/-- A type as written. -/
def readTypeRef (d : Document) (fields : Fields) : Except Fault TypeRef :=
  match d with
  | .obj _ => do
    let text ← fields.text "text"
    let span ← fields.get "span" Reading.span
    pure ⟨text, span⟩
  | _ => .error (.notAMapping .typeRef d)

/-- A reference to a trait. -/
def readTraitRef (d : Document) (fields : Fields) : Except Fault TraitRef :=
  match d with
  | .obj _ => do
    let path ← fields.text "path"
    let span ← fields.get "span" Reading.span
    pure ⟨path, span, fields.value "def_id"⟩
  | _ => .error (.notAMapping .traitRef d)

/-- The word for the kind of a pattern that does not state one. -/
def defaultPatternKind : Document → Document
  | .str "_" => .str "wild"
  | _ => .str "binding"

/-- A pattern. -/
def readPattern (d : Document) (fields : Fields) : Except Fault Pattern :=
  match d with
  | .obj _ => do
    let name := fields.value "name"
    let stated := fields.value "kind"
    let kind ← readMember (if stated.holds then stated else defaultPatternKind name)
    let span ← fields.get "span" Reading.span
    let subpatterns ← fields.sequence "subpatterns" Reading.patterns
    pure (.mk kind span name subpatterns)
  | _ => .error (.notAMapping .pattern d)

/-- The type span of a parameter: its own, or else that of its type. -/
def readTypeSpan (fields : Fields) : Except Fault (Option (Except Fault Span)) :=
  match fields.given? "ty_span" with
  | some part => .ok (some part.reading.span)
  | none => match fields.given? "ty" with
    | some part => part.reading.writtenSpan
    | none => .ok none

/-- A parameter. -/
def readParam (d : Document) (fields : Fields) : Except Fault Param :=
  match d with
  | .obj _ => do
    let typeSpan ← readTypeSpan fields
    let pattern ← fields.get "pat" Reading.pattern
    match typeSpan with
    | none => pure ⟨pattern, none⟩
    | some span => do
      let span ← span
      pure ⟨pattern, some span⟩
  | _ => .error (.notAMapping .param d)

end TreeLint.Dump
