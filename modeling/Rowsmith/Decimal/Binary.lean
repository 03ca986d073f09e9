/-
Numbers of the binary format with 53 significant bits: which of them is
nearest to a decimal, and how one is written.

A number is written with the fewest digits that no other number of the
format is nearer to, and of those with the digits nearest to it. All
computations are on natural numbers.
-/

namespace Rowsmith.Decimal

/-- A number of the format. A finite one is `significand * 2 ^ exponent`,
with a significand below `2 ^ 53` and an exponent of at least `-1074`;
the significand reaches `2 ^ 52` unless the exponent is `-1074`. -/
inductive Binary
  | finite (negative : Bool) (significand : Nat) (exponent : Int)
  | infinite (negative : Bool)
  | undefined
deriving DecidableEq, Repr

-- ============================================================= fractions

/-- A number that is not negative, as a fraction. -/
structure Fraction where
  num : Nat
  den : Nat
deriving Repr

namespace Fraction

/-- The fraction times a power of a base. -/
def scale (f : Fraction) (base : Nat) (power : Int) : Fraction :=
  if 0 ≤ power then ⟨f.num * base.pow power.toNat, f.den⟩
  else ⟨f.num, f.den * base.pow (-power).toNat⟩

/-- The largest whole number that is not above the fraction. -/
def floor (f : Fraction) : Nat := f.num / f.den

/-- The whole number nearest to the fraction; the even one of two. -/
def nearestEven (f : Fraction) : Nat :=
  let low := f.floor
  match compare (2 * (f.num % f.den)) f.den with
  | .lt => low
  | .gt => low + 1
  | .eq => if low % 2 = 0 then low else low + 1

end Fraction

-- ======================================================= from a decimal

/-- The significands are below this bound, `2 ^ 53`. -/
def significandBound : Nat := Nat.pow 2 53

/-- The significands reach this one, `2 ^ 52`, unless the exponent is the
smallest one. -/
def leastFullSignificand : Nat := Nat.pow 2 52

def minExponent : Int := -1074

def maxExponent : Int := 971

/-- The exponent at which a positive fraction has a whole part of 53 bits,
unless that is below the smallest one. -/
def exponentOf (f : Fraction) : Int :=
  let guess : Int := max ((f.num.log2 : Int) - (f.den.log2 : Int) - 53) minExponent
  if (f.scale 2 (-guess)).floor < significandBound then guess else guess + 1

/-- The number nearest to a positive fraction. -/
def ofFraction (negative : Bool) (f : Fraction) : Binary :=
  let exponent := exponentOf f
  let rounded := (f.scale 2 (-exponent)).nearestEven
  let (significand, exponent) :=
    if rounded = significandBound then (leastFullSignificand, exponent + 1)
    else (rounded, exponent)
  if exponent > maxExponent then .infinite negative else .finite negative significand exponent

/-- The number nearest to the decimal `digits * 10 ^ power`. Decimals that
are far too large or too small are told by their number of digits, so that
no large power is computed for them. -/
def Binary.nearest (negative : Bool) (digits : Nat) (power : Int) : Binary :=
  let size : Int := (Nat.toDigits 10 digits).length + power
  if digits = 0 ∨ size < -330 then .finite negative 0 minExponent
  else if size > 320 then .infinite negative
  else ofFraction negative ((⟨digits, 1⟩ : Fraction).scale 10 power)

-- ========================================================== to a decimal

/-- The fractions that are nearest to one number of the format. -/
structure Interval where
  low : Fraction
  value : Fraction
  high : Fraction
  -- The ends belong to the interval.
  closed : Bool

/-- The interval of a positive number. The gap below a power of two is half
as wide as the one above. -/
def intervalOf (significand : Nat) (exponent : Int) : Interval :=
  let quarters (n : Nat) : Fraction := (⟨n, 1⟩ : Fraction).scale 2 (exponent - 2)
  let below := if significand = leastFullSignificand ∧ exponent > minExponent then 1 else 2
  { low := quarters (4 * significand - below)
    value := quarters (4 * significand)
    high := quarters (4 * significand + 2)
    closed := significand % 2 = 0 }

/-- Compares a decimal with a fraction. -/
def compareDecimal (digits : Nat) (power : Int) (f : Fraction) : Ordering :=
  let decimal := (⟨digits, 1⟩ : Fraction).scale 10 power
  compare (decimal.num * f.den) (f.num * decimal.den)

/-- A decimal lies in the interval. -/
def Interval.contains (i : Interval) (digits : Nat) (power : Int) : Bool :=
  let above := compareDecimal digits power i.low
  let below := compareDecimal digits power i.high
  (above == .gt || (i.closed && above == .eq)) && (below == .lt || (i.closed && below == .eq))

/-- The multiple of a power of ten in the interval that is nearest to the
value, the larger one of two. Only the two next to the value can be it. -/
def Interval.nearestOn (i : Interval) (power : Int) : Option Nat :=
  let scaled := i.value.scale 10 (-power)
  let down := scaled.floor
  let up := down + 1
  match i.contains down power, i.contains up power with
  | true, true => if 2 * (scaled.num % scaled.den) < scaled.den then some down else some up
  | true, false => some down
  | false, true => some up
  | false, false => none

/-- The power of ten of the leading digit of a positive fraction. Four
hundred places are enough for the smallest number of the format. -/
def leadingPower (f : Fraction) : Int :=
  (Nat.toDigits 10 (f.scale 10 400).floor).length - 401

/-- The digits and the power of ten of a positive number: the first of the
grids with one, two and up to seventeen digits that meets the interval. -/
def shortest (significand : Nat) (exponent : Int) : Nat × Int :=
  let interval := intervalOf significand exponent
  let leading := leadingPower interval.value
  let found := (List.range 17).findSome? fun (extra : Nat) =>
    let power := leading - (extra : Int)
    (interval.nearestOn power).map fun digits => (digits, power)
  let (digits, power) := found.getD (0, 0)
  if digits % 10 = 0 then (digits / 10, power + 1) else (digits, power)

/-- A decimal written without an exponent, with at least one digit before
the point and one after it. -/
def positional (digits : Nat) (power : Int) : String :=
  let text := Nat.toDigits 10 digits
  if 0 ≤ power then String.ofList (text ++ List.replicate power.toNat '0') ++ ".0"
  else
    let places := (-power).toNat
    let padded := List.replicate (places + 1 - text.length) '0' ++ text
    String.ofList (padded.take (padded.length - places)) ++ "." ++
      String.ofList (padded.drop (padded.length - places))

def Binary.text : Binary → String
  | .undefined => "NaN"
  | .infinite negative => if negative then "-inf" else "inf"
  | .finite negative significand exponent =>
    let magnitude :=
      if significand = 0 then "0.0"
      else
        let (digits, power) := shortest significand exponent
        positional digits power
    if negative then "-" ++ magnitude else magnitude

-- the smallest number has the one digit nearest to it
example : shortest 1 (-1074) = (5, -324) := by decide +kernel

example : positional 15 (-1) = "1.5" ∧ positional 5 (-3) = "0.005" ∧ positional 12 1 = "120.0" := by
  decide +kernel

end Rowsmith.Decimal
