import TreeLint.Decimal.Binary64

/-!
# The shortest decimal that reads back

Every finite floating point number is written with the fewest decimal digits that round to it
again, and of the decimals with that many digits by the one nearest to the number. The search works
in exact arithmetic: all points are multiples of a quarter of the last binary place.

## Main definitions

* `Rounding`: a number together with the interval of reals that round to it
* `Decimal`: a number of decimal digits and a power of ten
* `Binary64.shortest`: the decimal with the fewest digits that rounds to the number
* `DecimalForm`: the decisions of a decimal notation
* `Binary64.render`: the text of a number in a notation
-/

namespace TreeLint

/-- The interval of reals that round to a positive number. The three points are over the common
denominator `den`, and the ends belong to the interval when `closed`. -/
structure Rounding where
  low : Nat
  value : Nat
  high : Nat
  den : Nat
  closed : Bool

/-- The number `digits * 10 ^ power`. -/
structure Decimal where
  digits : Nat
  power : Int
  deriving DecidableEq, Repr

namespace Rounding

/-- The rounding interval of a magnitude. The gap below a power of two is half the gap above it. -/
def ofBinary64 (x : Binary64) : Rounding :=
  let narrow := x.mantissa == powerOfTwo 52 && x.exponent != Binary64.minExponent
  let at4 := fun n => (Binary64.scale n (x.exponent - 2)).1
  { low := at4 (4 * x.mantissa - if narrow then 1 else 2)
    value := at4 (4 * x.mantissa)
    high := at4 (4 * x.mantissa + 2)
    den := (Binary64.scale 1 (x.exponent - 2)).2
    closed := x.mantissa % 2 == 0 }

/-- The power of ten just above the value: the value lies in `[10 ^ (k - 1), 10 ^ k)`. -/
def magnitude (r : Rounding) : Int :=
  if r.den ≤ r.value then ((Nat.toDigits 10 (r.value / r.den)).length : Int)
  else
    let enough := fun j => decide (r.den ≤ r.value * powerOfTen (j + 1))
    let zeros := ((List.range 330).find? enough).getD 330
    Int.neg zeros

/-- A point `n / den` of the interval's scale and a decimal over a common denominator. -/
def aligned (r : Rounding) (n : Nat) (d : Decimal) : Nat × Nat :=
  match d.power with
  | .ofNat k => (n, d.digits * powerOfTen k * r.den)
  | .negSucc k => (n * powerOfTen (k + 1), d.digits * r.den)

/-- Whether the decimal rounds to the number. -/
def holds (r : Rounding) (d : Decimal) : Bool :=
  let (low, a) := r.aligned r.low d
  let (high, b) := r.aligned r.high d
  if r.closed then low ≤ a && b ≤ high else low < a && b < high

/-- The distance of a decimal from the number, in units that depend on the power only. -/
def distance (r : Rounding) (d : Decimal) : Nat :=
  let (v, a) := r.aligned r.value d
  max v a - min v a

/-- The greatest decimal with the given power that is not above the number. -/
def floorAt (r : Rounding) : Int → Decimal
  | .ofNat k => ⟨r.value / (r.den * powerOfTen k), .ofNat k⟩
  | .negSucc k => ⟨r.value * powerOfTen (k + 1) / r.den, .negSucc k⟩

/-- The nearest decimal with the given power that rounds to the number; of two at the same distance
the one with the even last digit. -/
def nearestAt? (r : Rounding) (power : Int) : Option Decimal :=
  let below := r.floorAt power
  let above : Decimal := ⟨below.digits + 1, power⟩
  match r.holds below, r.holds above with
  | true, false => some below
  | false, true => some above
  | false, false => none
  | true, true =>
    if r.distance below < r.distance above then some below
    else if r.distance above < r.distance below then some above
    else if below.digits % 2 = 0 then some below else some above

/-- The nearest decimal with the fewest digits; seventeen are always enough. -/
def shortest (r : Rounding) : Decimal :=
  let k := r.magnitude
  ((List.range 17).findSome? fun n => r.nearestAt? (k - (n + 1 : Nat))).getD
    (r.floorAt (k - 17))

end Rounding

/-- Trailing zeros moved into the power. -/
def Decimal.normalize (d : Decimal) : Decimal :=
  let written := Nat.toDigits 10 d.digits
  let kept := (written.reverse.dropWhile (· == '0')).reverse
  if kept.isEmpty then d
  else ⟨kept.foldl (fun n c => 10 * n + (c.toNat - '0'.toNat)) 0,
    d.power + ((written.length - kept.length : Nat) : Int)⟩

/-- The decimal with the fewest digits that rounds to the magnitude of the number. -/
def Binary64.shortest (x : Binary64) : Decimal :=
  if x.isZero then ⟨0, 0⟩ else (Rounding.ofBinary64 x).shortest.normalize

/-- The decisions of a decimal notation: the exponents of the first digit that are written
positionally, and the least number of digits of a written exponent. -/
structure DecimalForm where
  leastPositional : Int
  greatestPositional : Int
  exponentDigits : Nat

/-- The decimal digits of `n`, with zeros in front up to the width. -/
def paddedDigits (width n : Nat) : List Char :=
  let written := Nat.toDigits 10 n
  List.replicate (width - written.length) '0' ++ written

/-- The digits with a point after the first `k` of them, zeros filling the places that are missing
on either side; at least one digit stands on each side. -/
def pointAfter (digits : List Char) : Int → List Char
  | .ofNat 0 => '0' :: '.' :: digits
  | .ofNat k =>
    let whole := digits.take k ++ List.replicate (k - digits.length) '0'
    let fraction := digits.drop k
    whole ++ '.' :: (if fraction.isEmpty then ['0'] else fraction)
  | .negSucc k => '0' :: '.' :: (List.replicate (k + 1) '0' ++ digits)

/-- The digits as a number from one to ten: no point follows a single digit. -/
def leadingForm : List Char → List Char
  | [] => []
  | [c] => [c]
  | c :: rest => c :: '.' :: rest

/-- The text of a number. -/
def Binary64.render (form : DecimalForm) (x : Binary64) : String :=
  let d := x.shortest
  let digits := Nat.toDigits 10 d.digits
  let first := d.power + (digits.length : Int) - 1
  let body :=
    if form.leastPositional ≤ first ∧ first ≤ form.greatestPositional then
      pointAfter digits (first + 1)
    else
      leadingForm digits ++ 'e' :: (if first < 0 then '-' else '+') ::
        paddedDigits form.exponentDigits first.natAbs
  String.ofList (if x.negative then '-' :: body else body)

end TreeLint
