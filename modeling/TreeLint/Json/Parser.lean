import TreeLint.Document

/-!
# Reading JSON text

A parser consumes a list of characters and returns what is left of it. A number with a point or an
exponent is a floating point number, any other number an integer. Escaped surrogate halves combine
to one character; a half that stands alone becomes the replacement character.

Nested values need fuel. Every step of a value consumes at least one character, so the length of the
text is enough, and `parse` shows no fuel.

A file holds a JSON document, or no document: nothing but blanks and comment lines, or a tilde. This
is one reader of documents among others, and nothing but the program itself depends on it.

## Main definitions

* `Json.SyntaxFault`: why a text is not a document
* `Json.parse`: the document that a text writes
* `Json.reader`: the reader of JSON files
-/

namespace TreeLint.Json

/-- Why a text is not a document. -/
inductive SyntaxFault where
  /-- The text ends inside a value. -/
  | unfinished
  /-- No value goes on with this character. -/
  | unexpected (c : Char)
  /-- A number is too great for a floating point number. -/
  | tooGreat
  deriving DecidableEq, Repr

/-- The wording of a syntax fault. -/
def SyntaxFault.message : SyntaxFault → String
  | .unfinished => "unexpected end of text"
  | .unexpected c => "unexpected character " ++ Text.quoted (String.singleton c)
  | .tooGreat => "a number is too great"

/-- A parser of the front of a text. -/
abbrev Parser (α : Type) := List Char → Except SyntaxFault (α × List Char)

/-- The fault at the front of a text. -/
def faultAt : List Char → SyntaxFault
  | [] => .unfinished
  | c :: _ => .unexpected c

/-- White space between the parts of a text. -/
def isSpace (c : Char) : Bool :=
  c == ' ' || c == '\n' || c == '\t' || c == '\r'

/-- Passes over white space. -/
def skipSpace (cs : List Char) : List Char :=
  cs.dropWhile isSpace

/-- The value of a hexadecimal digit. -/
def hexValue? (c : Char) : Option Nat :=
  if '0' ≤ c ∧ c ≤ '9' then some (c.toNat - '0'.toNat)
  else if 'a' ≤ c ∧ c ≤ 'f' then some (c.toNat - 'a'.toNat + 10)
  else if 'A' ≤ c ∧ c ≤ 'F' then some (c.toNat - 'A'.toNat + 10)
  else none

/-- The value of four hexadecimal digits. -/
def hexValue4? (a b c d : Char) : Option Nat := do
  let a ← hexValue? a
  let b ← hexValue? b
  let c ← hexValue? c
  let d ← hexValue? d
  pure (((a * 16 + b) * 16 + c) * 16 + d)

/-- The character of an escaped unit that is no half of a pair. -/
def unitChar (n : Nat) : Char :=
  if 0xD800 ≤ n ∧ n ≤ 0xDFFF then '�' else Char.ofNat n

/-- The character of a pair of surrogate halves, if they are one. -/
def pairChar? (high low : Nat) : Option Char :=
  if 0xD800 ≤ high ∧ high ≤ 0xDBFF ∧ 0xDC00 ≤ low ∧ low ≤ 0xDFFF then
    some (Char.ofNat (0x10000 + (high - 0xD800) * 0x400 + (low - 0xDC00)))
  else none

/-- The character that a one-letter escape stands for. -/
def escapeChar? : Char → Option Char
  | '"' => some '"'
  | '\\' => some '\\'
  | '/' => some '/'
  | 'b' => some '\x08'
  | 'f' => some '\x0c'
  | 'n' => some '\n'
  | 'r' => some '\r'
  | 't' => some '\t'
  | _ => none

/-- The units of a string after its opening quote: the code point of a character, or the unit that
an escape gives. -/
def stringUnits : Parser (List Nat)
  | [] => .error .unfinished
  | '"' :: rest => .ok ([], rest)
  | '\\' :: 'u' :: a :: b :: c :: d :: rest =>
    match hexValue4? a b c d with
    | none => .error (.unexpected 'u')
    | some n => (stringUnits rest).map fun (us, rest) => (n :: us, rest)
  | '\\' :: c :: rest =>
    match escapeChar? c with
    | none => .error (.unexpected c)
    | some x => (stringUnits rest).map fun (us, rest) => (x.toNat :: us, rest)
  | c :: rest => (stringUnits rest).map fun (us, rest) => (c.toNat :: us, rest)

/-- The characters of the units, the halves of a pair making one. -/
def combineUnits : List Nat → List Char
  | [] => []
  | [n] => [unitChar n]
  | m :: (n :: rest) =>
    match pairChar? m n with
    | some x => x :: combineUnits rest
    | none => unitChar m :: combineUnits (n :: rest)

/-- The rest of a string after its opening quote. -/
def stringBody : Parser String := fun cs =>
  (stringUnits cs).map fun (us, rest) => (String.ofList (combineUnits us), rest)

/-- The number that decimal digits write. -/
def natOfDigits (cs : List Char) : Nat :=
  cs.foldl (fun n c => 10 * n + (c.toNat - '0'.toNat)) 0

/-- A run of at least one decimal digit. -/
def digitRun : Parser (List Char) := fun cs =>
  match cs.takeWhile Char.isDigit with
  | [] => .error (faultAt cs)
  | run => .ok (run, cs.dropWhile Char.isDigit)

/-- The fraction of a number, if there is one. -/
def fraction : Parser (Option (List Char))
  | '.' :: rest => (digitRun rest).map fun (run, rest) => (some run, rest)
  | cs => .ok (none, cs)

/-- The digits of an exponent after its mark. -/
def signedExponent : Parser Int
  | '-' :: rest => (digitRun rest).map fun (run, rest) => (-(natOfDigits run : Int), rest)
  | '+' :: rest => (digitRun rest).map fun (run, rest) => ((natOfDigits run : Int), rest)
  | cs => (digitRun cs).map fun (run, rest) => ((natOfDigits run : Int), rest)

/-- The exponent of a number, if there is one. -/
def exponent : Parser (Option Int)
  | 'e' :: rest => (signedExponent rest).map fun (e, rest) => (some e, rest)
  | 'E' :: rest => (signedExponent rest).map fun (e, rest) => (some e, rest)
  | cs => .ok (none, cs)

/-- A number without its sign. -/
def unsignedNumber (negative : Bool) : Parser Document := fun cs => do
  let (whole, cs) ← digitRun cs
  let (part, cs) ← fraction cs
  let (power, cs) ← exponent cs
  if part.isNone && power.isNone then
    let n : Int := natOfDigits whole
    pure (.int (if negative then -n else n), cs)
  else
    let places := part.getD []
    let digits := natOfDigits (whole ++ places)
    match Binary64.ofDecimal? negative digits (power.getD 0 - (places.length : Int)) with
    | some x => pure (.real x, cs)
    | none => throw .tooGreat

/-- A number. -/
def number : Parser Document
  | '-' :: rest => unsignedNumber true rest
  | cs => unsignedNumber false cs

mutual

/-- A value, after white space. -/
def value : Nat → Parser Document
  | 0, cs => .error (faultAt cs)
  | fuel + 1, cs =>
    match skipSpace cs with
    | 'n' :: 'u' :: 'l' :: 'l' :: rest => .ok (.null, rest)
    | 't' :: 'r' :: 'u' :: 'e' :: rest => .ok (.bool true, rest)
    | 'f' :: 'a' :: 'l' :: 's' :: 'e' :: rest => .ok (.bool false, rest)
    | '"' :: rest => (stringBody rest).map fun (s, rest) => (.str s, rest)
    | '[' :: rest =>
      match skipSpace rest with
      | ']' :: rest => .ok (.arr [], rest)
      | _ => (elements fuel rest).map fun (ds, rest) => (.arr ds, rest)
    | '\x7b' :: rest =>
      match skipSpace rest with
      | '\x7d' :: rest => .ok (.obj [], rest)
      | _ => (members fuel rest).map fun (fs, rest) => (.obj fs, rest)
    | cs => number cs

/-- The elements of an array up to its closing bracket. -/
def elements : Nat → Parser (List Document)
  | 0, cs => .error (faultAt cs)
  | fuel + 1, cs =>
    match value fuel cs with
    | .error e => .error e
    | .ok (d, rest) =>
      match skipSpace rest with
      | ']' :: rest => .ok ([d], rest)
      | ',' :: rest => (elements fuel rest).map fun (ds, rest) => (d :: ds, rest)
      | cs => .error (faultAt cs)

/-- The fields of an object up to its closing brace. -/
def members : Nat → Parser (List (String × Document))
  | 0, cs => .error (faultAt cs)
  | fuel + 1, cs =>
    match skipSpace cs with
    | '"' :: rest =>
      match stringBody rest with
      | .error e => .error e
      | .ok (key, rest) =>
        match skipSpace rest with
        | ':' :: rest =>
          match value fuel rest with
          | .error e => .error e
          | .ok (d, rest) =>
            match skipSpace rest with
            | '\x7d' :: rest => .ok ([(key, d)], rest)
            | ',' :: rest =>
              (members fuel rest).map fun (fs, rest) => ((key, d) :: fs, rest)
            | cs => .error (faultAt cs)
        | cs => .error (faultAt cs)
    | cs => .error (faultAt cs)

end

/-- The document that the characters of a text write. -/
def document (cs : List Char) : Except SyntaxFault Document := do
  let (d, rest) ← value (cs.length + 1) cs
  match skipSpace rest with
  | [] => pure d
  | cs => throw (faultAt cs)

/-- The document that a text writes. -/
def parse (s : String) : Except SyntaxFault Document :=
  document s.toList

/-! ## Files -/

/-- Whether a line is a comment. -/
def isComment (line : List Char) : Bool :=
  (line.dropWhile Text.isBlank).head? == some '#'

/-- The text without its comment lines. -/
def withoutComments (cs : List Char) : List Char :=
  ((Text.pieces '\n' cs).filter fun line => !isComment line).flatMap fun line => line ++ ['\n']

/-- The document that the text of a file writes, which is null for a file without one. No string of
a document goes over the end of a line, so a comment line never lies inside one. -/
def parseFile (s : String) : Except SyntaxFault Document :=
  let content := withoutComments s.toList
  match Text.stripWhile Text.isBlank content with
  | [] => .ok .null
  | ['~'] => .ok .null
  | _ => document content

/-- The reader of JSON files. -/
def reader : Document.Reader := fun content =>
  match String.fromUTF8? content with
  | some text => (parseFile text).mapError fun fault => .malformed fault.message
  | none => .error (.invalid "the bytes of the file are no text")

/-- A written text is read as the document that it writes. -/
theorem reader_toUTF8 (s : String) :
    reader s.toUTF8 = (parseFile s).mapError fun fault => .malformed fault.message := by
  have htext : String.fromUTF8? s.toUTF8 = some s := by
    unfold String.fromUTF8?
    rw [String.toUTF8_eq_toByteArray, dif_pos s.isValidUTF8]
    rfl
  simp only [reader, htext]

end TreeLint.Json
