import TreeLint.Decimal.Shortest
import TreeLint.Text

/-!
# Documents

The values that dumps and configurations are written in. Integers are unbounded and kept apart from
floating point numbers, and an object keeps its fields in the order in which they were written.

How a file writes a document is left to a reader. Nothing is assumed of readers: they may take any
content for any document, and refuse any content with any message.

## Main definitions

* `Document`: a document value
* `Document.holds`: whether a value counts as given
* `Document.quoted`: the text of a value inside a message
* `Document.text`: the text that a value stands for
* `Document.same`: whether two documents are the same
* `ReadFault`, `Document.Reader`: what the content of a file means
-/

namespace TreeLint

/-- A document value. -/
inductive Document where
  | null
  | bool (value : Bool)
  | int (value : Int)
  | real (value : Binary64)
  | str (value : String)
  | arr (elements : List Document)
  | obj (fields : List (String × Document))
  deriving Inhabited

namespace Document

/-- Whether a value counts as given: null, false, zero and everything empty do not. -/
def holds : Document → Bool
  | .null => false
  | .bool b => b
  | .int n => n != 0
  | .real x => !x.isZero
  | .str s => !s.isEmpty
  | .arr ds => !ds.isEmpty
  | .obj fs => !fs.isEmpty

/-- Whether the value is null. -/
def isNull : Document → Bool
  | .null => true
  | _ => false

/-- Whether the value is an array or an object, which cannot serve as a key. -/
def isCompound : Document → Bool
  | .arr _ => true
  | .obj _ => true
  | _ => false

/-- The name of the type of a value, as messages give it. -/
def typeName : Document → String
  | .null => "NoneType"
  | .bool _ => "bool"
  | .int _ => "int"
  | .real _ => "float"
  | .str _ => "str"
  | .arr _ => "list"
  | .obj _ => "dict"

/-- The value of a field, if the object has it. -/
def field? (fields : List (String × Document)) (key : String) : Option Document :=
  fields.lookup key

/-- The value of a field, if the object has it and it is not null. -/
def given? (fields : List (String × Document)) (key : String) : Option Document :=
  (field? fields key).filter (!·.isNull)

/-- Numbers are written positionally from `0.0001` up to sixteen digits, with a digit on both sides
of the point, and otherwise with a signed exponent of two digits or more. -/
def realForm : DecimalForm := ⟨-4, 15, 2⟩

mutual

/-- The text of a value inside a message, where texts stand between quotes. -/
def quoted : Document → String
  | .null => "None"
  | .bool true => "True"
  | .bool false => "False"
  | .int n => toString n
  | .real x => x.render realForm
  | .str s => Text.quoted s
  | .arr ds => "[" ++ ", ".intercalate (quotedElements ds) ++ "]"
  | .obj fs => "\x7b" ++ ", ".intercalate (quotedFields fs) ++ "\x7d"

/-- The texts of the elements of an array. -/
def quotedElements : List Document → List String
  | [] => []
  | d :: ds => quoted d :: quotedElements ds

/-- The texts of the fields of an object. -/
def quotedFields : List (String × Document) → List String
  | [] => []
  | (k, d) :: fs => (Text.quoted k ++ ": " ++ quoted d) :: quotedFields fs

end

/-- The text that a value stands for: a text is itself, any other value is shown. -/
def text : Document → String
  | .str s => s
  | d => quoted d

/-! ## Equality -/

mutual

/-- Whether two documents are the same. -/
def same : Document → Document → Bool
  | .null, .null => true
  | .bool a, .bool b => a == b
  | .int m, .int n => m == n
  | .real x, .real y => x == y
  | .str s, .str t => s == t
  | .arr as, .arr bs => sameElements as bs
  | .obj fs, .obj gs => sameFields fs gs
  | _, _ => false

/-- Whether the elements of two arrays are the same. -/
def sameElements : List Document → List Document → Bool
  | [], [] => true
  | a :: as, b :: bs => same a b && sameElements as bs
  | _, _ => false

/-- Whether the fields of two objects are the same, in one order. -/
def sameFields : List (String × Document) → List (String × Document) → Bool
  | [], [] => true
  | (k, a) :: fs, (l, b) :: gs => k == l && same a b && sameFields fs gs
  | _, _ => false

end

mutual

/-- The comparison decides equality. -/
theorem same_iff : ∀ a b, same a b ↔ a = b
  | .null, b => by cases b <;> simp [same]
  | .bool _, b => by cases b <;> simp [same]
  | .int _, b => by cases b <;> simp [same]
  | .real _, b => by cases b <;> simp [same]
  | .str _, b => by cases b <;> simp [same]
  | .arr as, b => by cases b <;> simp [same, sameElements_iff as]
  | .obj fs, b => by cases b <;> simp [same, sameFields_iff fs]

theorem sameElements_iff : ∀ as bs, sameElements as bs ↔ as = bs
  | [], bs => by cases bs <;> simp [sameElements]
  | a :: as, bs => by cases bs <;> simp [sameElements, same_iff a, sameElements_iff as]

theorem sameFields_iff : ∀ fs gs, sameFields fs gs ↔ fs = gs
  | [], gs => by cases gs <;> simp [sameFields]
  | (k, a) :: fs, gs => by
    cases gs <;> simp [sameFields, same_iff a, sameFields_iff fs, Prod.ext_iff]

end

instance : DecidableEq Document := fun a b => decidable_of_iff _ (same_iff a b)

end Document

/-! ## Readers -/

/-- Why the content of a file gives no document. -/
inductive ReadFault where
  /-- The content is not in the notation of the reader. -/
  | malformed (message : String)
  /-- The content is in the notation, but a part of it stands for no value. Bytes that are no text
  count as such a part. -/
  | invalid (message : String)
  /-- The reader breaks off for a reason of its own. -/
  | broken (message : String)
  deriving DecidableEq, Repr

/-- The wording of a reader's fault. -/
def ReadFault.message : ReadFault → String
  | .malformed message => message
  | .invalid message => message
  | .broken message => message

/-- A reader of documents, which tells what the content of a file means. -/
abbrev Document.Reader := ByteArray → Except ReadFault Document

end TreeLint
