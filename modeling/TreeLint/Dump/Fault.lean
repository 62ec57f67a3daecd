import TreeLint.Tree

/-!
# Faults of a dump

Why a document cannot be read as part of a dump. Most faults refuse the dump with a message. Some
arise because a value is used in a way that its type does not allow; these have a class of their
own, since they are not reported as a refused dump.

## Main definitions

* `MappingRole`: the positions that need an object
* `Fault`: the causes
* `Fault.faultClass`, `Fault.message`: the class and the wording of a fault
* `Fault.within`: a missing field is attributed to the node around it
-/

namespace TreeLint.Dump

/-- Positions that need an object without being nodes that name their kind. -/
inductive MappingRole where
  | block
  | typeRef
  | traitRef
  | writtenType
  | pattern
  | param
  | langItems
  | definitions
  deriving DecidableEq, Repr

namespace MappingRole

/-- The method by which a position asks for fields that may be missing, or for all fields. The other
positions ask first for a field that must be there, and do so by its name. -/
def method? : MappingRole → Option String
  | .pattern => some "get"
  | .param => some "get"
  | .langItems => some "items"
  | .definitions => some "items"
  | _ => none

/-- Whether the position asks for fields that may be missing before it asks for any other. -/
def asksOptionally (role : MappingRole) : Bool :=
  role.method?.isSome

end MappingRole

/-- Why a document cannot be read. -/
inductive Fault where
  /-- The dump is not an object. -/
  | notADump
  /-- The file holds a document that is not an object. -/
  | notADumpAt (path : String)
  /-- A node is not an object. -/
  | notANode (sort : NodeSort) (got : Document)
  /-- No node of the sort has this kind; null stands for a missing one. -/
  | unknownKind (sort : NodeSort) (kind : Document)
  /-- A node of this kind, or a part of it, lacks a field. -/
  | missingField (sort : NodeSort) (kind : String) (field : String)
  /-- A field is missing, and the node around it is not known yet. -/
  | absent (field : String)
  | malformedSpan (got : Document)
  | malformedOrigin (got : Document)
  | unknownOrigin (kind : Document)
  /-- A text does not write an integer. -/
  | notAnInteger (text : String)
  /-- A text writes an integer with too many digits. -/
  | integerTooLong (digits : Nat)
  /-- The value is no word of the vocabulary. -/
  | notAMember (got : Document) (vocabulary : String)
  /-- A value that is neither a number nor a text stands for a position. -/
  | notANumber (got : Document)
  /-- A value that has no elements stands for a sequence. -/
  | notASequence (got : Document)
  /-- An array or object stands for a kind. -/
  | compoundKind (got : Document)
  /-- A value that is not an object stands where fields are looked up. -/
  | notAMapping (role : MappingRole) (got : Document)

/-- The classes of faults. -/
inductive FaultClass where
  /-- The dump is refused with a message. -/
  | refused
  /-- A value is used in a way that its type does not allow. -/
  | mistyped
  /-- Optional fields are asked of a value that has none. -/
  | fieldless
  /-- A field is missing outside every node. -/
  | incomplete
  deriving DecidableEq, Repr

namespace Fault

/-- The class of a fault. -/
def faultClass : Fault → FaultClass
  | .absent _ => .incomplete
  | .notANumber _ => .mistyped
  | .notASequence _ => .mistyped
  | .compoundKind _ => .mistyped
  | .notAMapping role _ => if role.asksOptionally then .fieldless else .mistyped
  | _ => .refused

/-- The front of a text that a message shows. -/
def excerpt (s : String) : String :=
  String.ofList (s.toList.take 200)

/-- The wording for a value of which a field is asked by name although it has no named fields. -/
def withoutNames : Document → String
  | .str _ => "string indices must be integers, not 'str'"
  | .arr _ => "list indices must be integers or slices, not str"
  | d => "'" ++ d.typeName ++ "' object is not subscriptable"

/-- The wording of a fault. Of a text that writes no integer only the front is shown. -/
def message : Fault → String
  | .notADump => "Tree dump is not a mapping"
  | .notADumpAt path => "Tree dump at " ++ path ++ " is not a mapping"
  | .notANode sort got => "Expected a " ++ sort.name ++ " mapping, got " ++ got.quoted
  | .unknownKind sort kind => "Unknown " ++ sort.name ++ " kind " ++ kind.quoted
  | .missingField sort kind field =>
    sort.title ++ " of kind " ++ Text.quoted kind ++ " is missing field " ++ Text.quoted field
  | .absent field => Text.quoted field
  | .malformedSpan got => "Malformed span: " ++ got.quoted
  | .malformedOrigin got => "Malformed span origin: " ++ got.quoted
  | .unknownOrigin kind => "Unknown span origin kind " ++ kind.quoted
  | .notAnInteger text => "invalid literal for int() with base 10: " ++ excerpt (Text.quoted text)
  | .integerTooLong digits =>
    "Exceeds the limit (" ++ toString Text.maxDigits ++
      " digits) for integer string conversion: value has " ++ toString digits ++
      " digits; use sys.set_int_max_str_digits() to increase the limit"
  | .notAMember got vocabulary => got.quoted ++ " is not a valid " ++ vocabulary
  | .notANumber got =>
    "int() argument must be a string, a bytes-like object or a real number, not '" ++
      got.typeName ++ "'"
  | .notASequence got => "'" ++ got.typeName ++ "' object is not iterable"
  | .compoundKind got => "unhashable type: '" ++ got.typeName ++ "'"
  | .notAMapping role got => match role.method? with
    | some method => "'" ++ got.typeName ++ "' object has no attribute '" ++ method ++ "'"
    | none => withoutNames got

/-- The fault as seen from a node around it: a missing field becomes that node's. -/
def within (sort : NodeSort) (kind : String) : Fault → Fault
  | .absent field => .missingField sort kind field
  | fault => fault

end Fault

end TreeLint.Dump
