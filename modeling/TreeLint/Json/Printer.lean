import TreeLint.Document

/-!
# Writing JSON text

Only printable ASCII characters are written as they are; every other character is escaped by its
code unit, or by a pair of units when it lies beyond the basic plane.

## Main definitions

* `Json.string`: a text as a JSON string
* `Json.compact`: a document on one line
* `Json.indented`: a document with one part a line, two blanks deeper at each level
-/

namespace TreeLint.Json

/-- A code unit as an escape. -/
def unitEscape (n : Nat) : List Char :=
  '\\' :: 'u' :: Text.hexDigits 4 n

/-- How a character is written inside a string. -/
def stringChar (c : Char) : List Char :=
  let n := c.toNat
  if c = '"' ∨ c = '\\' then ['\\', c]
  else if c = '\n' then ['\\', 'n']
  else if c = '\r' then ['\\', 'r']
  else if c = '\t' then ['\\', 't']
  else if c = '\x08' then ['\\', 'b']
  else if c = '\x0c' then ['\\', 'f']
  else if ' ' ≤ c ∧ c ≤ '~' then [c]
  else if n < 0x10000 then unitEscape n
  else unitEscape (0xD800 + (n - 0x10000) / 0x400) ++ unitEscape (0xDC00 + (n - 0x10000) % 0x400)

/-- A text as a JSON string. -/
def string (s : String) : String :=
  String.ofList ('"' :: s.toList.flatMap stringChar ++ ['"'])

/-- A value without parts; an array or object counts as empty here. -/
def scalar : Document → String
  | .null => "null"
  | .bool true => "true"
  | .bool false => "false"
  | .int n => toString n
  | .real x => x.render Document.realForm
  | .str s => string s
  | .arr _ => "[]"
  | .obj _ => "\x7b\x7d"

mutual

/-- The document on one line. -/
def compact : Document → String
  | .arr ds => "[" ++ ",".intercalate (compactElements ds) ++ "]"
  | .obj fs => "\x7b" ++ ",".intercalate (compactFields fs) ++ "\x7d"
  | d => scalar d

/-- The elements of an array, each on one line. -/
def compactElements : List Document → List String
  | [] => []
  | d :: ds => compact d :: compactElements ds

/-- The fields of an object, each on one line. -/
def compactFields : List (String × Document) → List String
  | [] => []
  | (k, d) :: fs => (string k ++ ":" ++ compact d) :: compactFields fs

end

/-- A line break followed by the indentation of a level. -/
def newline (level : Nat) : String :=
  String.ofList ('\n' :: List.replicate (2 * level) ' ')

/-- Parts between brackets, one a line and one level deeper than the closing bracket. -/
def bracketed (opening closing : String) (level : Nat) (parts : List String) : String :=
  opening ++ newline (level + 1) ++ ("," ++ newline (level + 1)).intercalate parts ++
    newline level ++ closing

mutual

/-- The document with one part a line, the parts of nested values two blanks deeper. -/
def indentedAt (level : Nat) : Document → String
  | .arr (d :: ds) =>
    bracketed "[" "]" level (indentedAt (level + 1) d :: indentedElements (level + 1) ds)
  | .obj ((k, d) :: fs) =>
    bracketed "\x7b" "\x7d" level
      ((string k ++ ": " ++ indentedAt (level + 1) d) :: indentedFields (level + 1) fs)
  | d => scalar d

/-- The elements of an array at a level. -/
def indentedElements (level : Nat) : List Document → List String
  | [] => []
  | d :: ds => indentedAt level d :: indentedElements level ds

/-- The fields of an object at a level. -/
def indentedFields (level : Nat) : List (String × Document) → List String
  | [] => []
  | (k, d) :: fs => (string k ++ ": " ++ indentedAt level d) :: indentedFields level fs

end

/-- The document with one part a line, the parts of nested values two blanks deeper. -/
def indented (d : Document) : String :=
  indentedAt 0 d

end TreeLint.Json
