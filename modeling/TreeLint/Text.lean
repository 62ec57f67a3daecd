import TreeLint.Text.Printable

/-!
# Texts

How texts are cut, searched, read as integers and shown. Texts are searched and cut as lists of
characters.

The blanks of every script are removed around a word. An integer may be surrounded by blanks too,
but there the four separator controls `0x1C` to `0x1F` do not count. It is written with decimal
digits of any script, an optional sign in front, and single underscores between digits. A script
has its ten digits in a consecutive run, so the table of digits holds only the code points of the
zeros. A run of more than `maxDigits` digits is refused before the rest of the text is looked at, so
that no text is expensive to read.

A text inside a message stands between single quotes, or between double quotes when it holds a
single quote and no double one. The quote in use and the backslash are escaped, and a character
that is not printable is written by its code point.

## Main definitions

* `Text.strip`: a text without the blanks at its ends
* `Text.occursIn`: whether a text occurs anywhere in another
* `Text.pieces`, `Text.segments`: the parts of a text between separators
* `Text.digitValue?`: the value of a decimal digit of any script
* `Text.readInteger`: the integer that a text writes
* `Text.quoted`: a text between quotes
* `Vocabulary`: a finite type whose members are written as fixed words

## Main results

* `Text.occursIn_iff_isInfix`: an occurrence is an infix
-/

namespace TreeLint

namespace Text

/-! ## Blanks -/

/-- Blanks allowed around an integer. -/
def isNumberBlank (c : Char) : Bool :=
  let n := c.toNat
  (9 ≤ n && n ≤ 13) || n == 0x20 || n == 0x85 || n == 0xA0 || n == 0x1680 ||
    (0x2000 ≤ n && n ≤ 0x200A) || n == 0x2028 || n == 0x2029 || n == 0x202F || n == 0x205F ||
    n == 0x3000

/-- Blanks removed around a word: those around an integer and the four separator controls. -/
def isBlank (c : Char) : Bool :=
  isNumberBlank c || (0x1C ≤ c.toNat && c.toNat ≤ 0x1F)

/-- The characters without the leading and trailing ones that satisfy `p`. -/
def stripWhile (p : Char → Bool) (cs : List Char) : List Char :=
  ((cs.dropWhile p).reverse.dropWhile p).reverse

/-- The text without the blanks at its ends. -/
def strip (s : String) : String :=
  String.ofList (stripWhile isBlank s.toList)

/-! ## Occurrences and pieces -/

/-- Whether the first list of characters occurs in the second, at any offset. -/
def occursIn (needle : List Char) : List Char → Bool
  | [] => needle.isEmpty
  | c :: rest => needle.isPrefixOf (c :: rest) || occursIn needle rest

theorem occursIn_iff_isInfix {needle hay : List Char} :
    occursIn needle hay = true ↔ needle <:+: hay := by
  induction hay with
  | nil => simp [occursIn]
  | cons c rest ih => simp [occursIn, ih, List.infix_cons_iff]

/-- The pieces between occurrences of a separator, which may be empty. -/
def pieces (separator : Char) : List Char → List (List Char)
  | [] => [[]]
  | c :: rest =>
    if c = separator then [] :: pieces separator rest
    else match pieces separator rest with
      | [] => [[c]]
      | piece :: more => (c :: piece) :: more

/-- The pieces between double colons, which may be empty; of three colons in a row the first two
separate. -/
def segments : List Char → List (List Char)
  | [] => [[]]
  | ':' :: ':' :: rest => [] :: segments rest
  | c :: rest => match segments rest with
    | [] => [[c]]
    | segment :: more => (c :: segment) :: more

/-! ## Digits and integers -/

/-- The zeros of the digit runs, in increasing order. -/
def digitZeros : List Nat :=
 [0x30, 0x660, 0x6F0, 0x7C0, 0x966, 0x9E6, 0xA66, 0xAE6, 0xB66, 0xBE6, 0xC66, 0xCE6, 0xD66, 0xDE6,
  0xE50, 0xED0, 0xF20, 0x1040, 0x1090, 0x17E0, 0x1810, 0x1946, 0x19D0, 0x1A80, 0x1A90, 0x1B50,
  0x1BB0, 0x1C40, 0x1C50, 0xA620, 0xA8D0, 0xA900, 0xA9D0, 0xA9F0, 0xAA50, 0xABF0, 0xFF10, 0x104A0,
  0x10D30, 0x11066, 0x110F0, 0x11136, 0x111D0, 0x112F0, 0x11450, 0x114D0, 0x11650, 0x116C0,
  0x11730, 0x118E0, 0x11950, 0x11C50, 0x11D50, 0x11DA0, 0x16A60, 0x16AC0, 0x16B50, 0x1D7CE,
  0x1D7D8, 0x1D7E2, 0x1D7EC, 0x1D7F6, 0x1E140, 0x1E2F0, 0x1E950, 0x1FBF0]

/-- The value of a decimal digit of any script. -/
def digitValue? (c : Char) : Option Nat :=
  (digitZeros.find? fun z => decide (z ≤ c.toNat) && decide (c.toNat < z + 10)).map (c.toNat - ·)

/-- Whether the character is a decimal digit of some script. -/
def isDigit (c : Char) : Bool :=
  (digitValue? c).isSome

/-- Why a text is not read as an integer. -/
inductive IntegerFault where
  /-- The text does not write an integer. -/
  | malformed
  /-- The text writes more digits than are read. -/
  | tooLong (digits : Nat)
  deriving DecidableEq, Repr

/-- The greatest number of digits that are read. -/
def maxDigits : Nat := 4300

/-- Whether every underscore stands between two digits. The flag tells whether the character before
was a digit. -/
def underscoresSeparate : Bool → List Char → Bool
  | afterDigit, [] => afterDigit
  | afterDigit, c :: rest =>
    if c = '_' then afterDigit && underscoresSeparate false rest else underscoresSeparate true rest

/-- The number that a run of digits writes; underscores are passed over. -/
def digitsValue (cs : List Char) : Nat :=
  cs.foldl (fun n c => match digitValue? c with
    | some d => 10 * n + d
    | none => n) 0

/-- The number that the characters write without sign; only blanks may follow the digits. -/
def readMagnitude (cs : List Char) : Except IntegerFault Nat :=
  let isRun := fun c => isDigit c || c == '_'
  let run := cs.takeWhile isRun
  let digits := (run.filter isDigit).length
  if !underscoresSeparate false run then .error .malformed
  else if maxDigits < digits then .error (.tooLong digits)
  else if !(cs.dropWhile isRun).all isNumberBlank then .error .malformed
  else .ok (digitsValue run)

/-- The integer that the text writes. -/
def readInteger (s : String) : Except IntegerFault Int :=
  match s.toList.dropWhile isNumberBlank with
  | '-' :: rest => (readMagnitude rest).map fun n => -(n : Int)
  | '+' :: rest => (readMagnitude rest).map fun n => (n : Int)
  | rest => (readMagnitude rest).map fun n => (n : Int)

/-! ## Quotes -/

/-- The last `width` hexadecimal digits of `n`, in lower case. -/
def hexDigits : Nat → Nat → List Char
  | 0, _ => []
  | width + 1, n => hexDigits width (n / 16) ++ [Nat.digitChar (n % 16)]

/-- How a character that is not printable is written. -/
def hiddenForm (c : Char) : List Char :=
  let n := c.toNat
  if n ≤ 0xFF then '\\' :: 'x' :: hexDigits 2 n
  else if n ≤ 0xFFFF then '\\' :: 'u' :: hexDigits 4 n
  else '\\' :: 'U' :: hexDigits 8 n

/-- How a character is written between quotes of the given kind. -/
def quotedChar (quote c : Char) : List Char :=
  if c = quote ∨ c = '\\' then ['\\', c]
  else if c = '\n' then ['\\', 'n']
  else if c = '\r' then ['\\', 'r']
  else if c = '\t' then ['\\', 't']
  else if isPrintable c then [c]
  else hiddenForm c

/-- The quote around a text: a single one, unless only the double one is free of escapes. -/
def quoteFor (cs : List Char) : Char :=
  if '\'' ∈ cs ∧ '"' ∉ cs then '"' else '\''

/-- The text between quotes. -/
def quoted (s : String) : String :=
  let quote := quoteFor s.toList
  String.ofList (quote :: s.toList.flatMap (quotedChar quote) ++ [quote])

end Text

/-! ## Vocabularies -/

/-- A finite type whose members are written as fixed words. The title names the vocabulary in
messages. -/
class Vocabulary (α : Type) where
  title : String
  members : List α
  spelling : α → String

/-- The first member that is spelled as the word. -/
def Vocabulary.find? {α : Type} [Vocabulary α] (word : String) : Option α :=
  (Vocabulary.members : List α).find? fun a => Vocabulary.spelling a == word

end TreeLint
