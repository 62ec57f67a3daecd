/-!
# Binary floating point numbers

A finite number with 53 binary digits of precision: a sign and a magnitude
`mantissa * 2 ^ exponent`. The mantissa is below `2 ^ 53`, the exponent is from `-1074` to `971`,
and a mantissa below `2 ^ 52` goes with the least exponent, so every number has one form. A decimal
is rounded to the nearest such number, a tie to the even mantissa. When rounding up gives `2 ^ 53`,
the number is the next power of two. A decimal that would need a greater exponent has no finite
number near it.

## Main definitions

* `Binary64`: a finite floating point number
* `roundQuotient`: the nearest integer to a quotient, ties to even
* `Binary64.ofQuotient?`: the number nearest to a quotient
* `Binary64.ofDecimal?`: the number nearest to a decimal
* `Binary64.truncate`: the integer part
-/

namespace TreeLint

/-- A power of two. -/
def powerOfTwo (k : Nat) : Nat := Nat.pow 2 k

/-- A power of ten. -/
def powerOfTen (k : Nat) : Nat := Nat.pow 10 k

/-- A finite floating point number. -/
structure Binary64 where
  negative : Bool
  mantissa : Nat
  exponent : Int
  deriving DecidableEq, Repr

/-- The integer nearest to `num / den`, a tie going to the even one. -/
def roundQuotient (num den : Nat) : Nat :=
  let q := num / den
  let r := 2 * (num % den)
  if r < den then q
  else if den < r then q + 1
  else if q % 2 = 0 then q else q + 1

namespace Binary64

/-- The least exponent. -/
def minExponent : Int := -1074

/-- The greatest exponent. -/
def maxExponent : Int := 971

/-- The product of `n` with a power of two, as a numerator and a denominator. -/
def scale (n : Nat) : Int → Nat × Nat
  | .ofNat k => (n * powerOfTwo k, 1)
  | .negSucc k => (n, powerOfTwo (k + 1))

/-- The mantissa of `num / den` at the given exponent, rounded. -/
def mantissaAt (num den : Nat) : Int → Nat
  | .ofNat k => roundQuotient num (den * powerOfTwo k)
  | .negSucc k => roundQuotient (num * powerOfTwo (k + 1)) den

/-- Whether `num / den` is at least the given power of two. -/
def reaches (num den : Nat) : Int → Bool
  | .ofNat k => decide (den * powerOfTwo k ≤ num)
  | .negSucc k => decide (den ≤ num * powerOfTwo (k + 1))

/-- The exponent of the greatest power of two that is not above `num / den`. The lengths of the two
numbers give it, or one more than it. -/
def leadingExponent (num den : Nat) : Int :=
  let k := (num.log2 : Int) - (den.log2 : Int)
  if reaches num den k then k else k - 1

/-- The number with a mantissa of at most `2 ^ 53`, which rounding up may reach. -/
def carried (negative : Bool) (mantissa : Nat) (exponent : Int) : Binary64 :=
  if mantissa < powerOfTwo 53 then ⟨negative, mantissa, exponent⟩
  else ⟨negative, powerOfTwo 52, exponent + 1⟩

/-- The number nearest to `num / den`, unless that is too great. Its last place is 52 places below
the first, but never below the least exponent, where the number has fewer digits. -/
def ofQuotient? (negative : Bool) (num den : Nat) : Option Binary64 :=
  let e := max minExponent (leadingExponent num den - 52)
  let x := if num = 0 then ⟨negative, 0, minExponent⟩
    else carried negative (mantissaAt num den e) e
  if x.exponent ≤ maxExponent then some x else none

/-- The number nearest to the decimal `digits * 10 ^ power`, unless that is too great. -/
def ofDecimal? (negative : Bool) (digits : Nat) : Int → Option Binary64
  | .ofNat k => ofQuotient? negative (digits * powerOfTen k) 1
  | .negSucc k => ofQuotient? negative digits (powerOfTen (k + 1))

/-- Whether the number is zero, of either sign. -/
def isZero (x : Binary64) : Bool :=
  x.mantissa == 0

/-- The integer part, which lies toward zero. -/
def truncate (x : Binary64) : Int :=
  let (num, den) := scale x.mantissa x.exponent
  let n : Int := (num / den : Nat)
  if x.negative then -n else n

end Binary64

end TreeLint
