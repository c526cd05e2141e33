import MutationTesting.Number.Binary64

/-! Decimal forms of doubles: the fewest digits that read back, and a fixed number of places.

The digits come from exact comparisons of natural numbers with the interval of reals that round to
the number. Where the point is written, and when an exponent is, belongs to each output format. -/
namespace MutationTesting.Binary64

/-- A positive decimal: `digits · 10 ^ power`. -/
structure Decimal where
  digits : Nat
  power : Int
deriving DecidableEq

/-- The reals that round to a positive finite number, as multiples of a quarter of the smallest
positive number. The ends belong to it exactly when `closed`. -/
structure Interval where
  low : Nat
  value : Nat
  high : Nat
  closed : Bool

/-- Below a power of two the neighbours lie twice as close. -/
def interval (x : Binary64) : Interval :=
  let ulp := Nat.pow 2 x.shift
  let value := 4 * x.units
  let below := if x.fraction.val = 0 ∧ 1 < x.exponent.val then ulp else 2 * ulp
  ⟨value - below, value, value + 2 * ulp, x.fraction.val % 2 = 0⟩

/-- Whether `scaled / grid` lies in the interval. -/
def Interval.holds (i : Interval) (scaled grid : Nat) : Bool :=
  if i.closed then decide (i.low * grid ≤ scaled) && decide (scaled ≤ i.high * grid)
  else decide (i.low * grid < scaled) && decide (scaled < i.high * grid)

/-- The step of the decimal grid `10 ^ power`, as a fraction of quarter units. -/
def gridStep (power : Int) : Nat × Nat :=
  if 0 ≤ power then (4 * unitsPerOne * Nat.pow 10 power.toNat, 1)
  else (4 * unitsPerOne, Nat.pow 10 (-power).toNat)

/-- The point of the grid `10 ^ power` in the interval that is nearest to its value, the upper one
of two equally near. -/
def onGrid? (i : Interval) (power : Int) : Option Nat :=
  let (step, den) := gridStep power
  let lower := i.value * den / step
  let lowerIn := decide (0 < lower) && i.holds (lower * step) den
  let upperIn := i.holds ((lower + 1) * step) den
  if lowerIn && upperIn then
    if 2 * (i.value * den - lower * step) < step then some lower else some (lower + 1)
  else if lowerIn then some lower
  else if upperIn then some (lower + 1)
  else none

/-- The first grid with a point in the interval, from the coarsest of `fuel` grids on. -/
def searchGrids (i : Interval) : Nat → Int → Decimal
  | 0, power => ⟨0, power⟩
  | fuel + 1, power =>
    match onGrid? i power with
    | some d => ⟨d, power⟩
    | none => searchGrids i fuel (power - 1)

/-- Decimal position of the leading digit of a positive quotient, or one more. -/
def leadingPower (num den : Nat) : Int :=
  if den ≤ num then decimalLength (num / den) else 1 - decimalLength (den / num)

/-- The fewest digits that read back as the magnitude of a positive finite number, and of those
the ones nearest to it. -/
def shortest (x : Binary64) : Decimal :=
  searchGrids x.interval 20 (leadingPower x.units unitsPerOne + 1)

def digitsOf (n : Nat) : List Char := Nat.toDigits 10 n

/-- A decimal without an exponent: all places of the whole part, then a point and the rest, with at
least `places` digits after the point. -/
def positional (d : Decimal) (places : Nat) : List Char :=
  let ds := digitsOf d.digits
  let (whole, rest) :=
    if 0 ≤ d.power then (ds ++ List.replicate d.power.toNat '0', [])
    else
      let k := (-d.power).toNat
      if k < ds.length then (ds.take (ds.length - k), ds.drop (ds.length - k))
      else (['0'], List.replicate (k - ds.length) '0' ++ ds)
  let rest := rest ++ List.replicate (places - rest.length) '0'
  if rest.isEmpty then whole else whole ++ '.' :: rest

def scientific (d : Decimal) : List Char :=
  let ds := digitsOf d.digits
  let exponent : Int := d.power + (ds.length - 1 : Nat)
  let tail := if ds.tail.isEmpty then [] else '.' :: ds.tail
  ds.take 1 ++ tail ++ 'e' :: (toString exponent).toList

/-- The sign of a number in front of the text of its magnitude; the names of the values that have
no digits. -/
def signed (x : Binary64) (magnitude : List Char) : String :=
  if x.isNaN then "NaN"
  else
    let body := if x.isInfinite then "inf".toList else magnitude
    String.ofList (if x.negative then '-' :: body else body)

def decimal (x : Binary64) : Decimal := if x.isZero then ⟨0, 0⟩ else x.shortest

/-- Without an exponent, with at least `places` digits after the point. -/
def plainText (x : Binary64) (places : Nat) : String := x.signed (positional x.decimal places)

def firstLarge : Binary64 := ofRatio false 10000000000000000 1

/-- `0.0001`, the last nonzero magnitude written without a negative exponent. -/
def lastSmall : Binary64 := ofRatio false 1 10000

/-- The text of a literal: without an exponent from `0.0001` up to `1e16` and for zero, always with
a digit after the point there; with one digit before the point and an exponent otherwise. -/
def literalText (x : Binary64) : String :=
  let plain := x.isZero || (lastSmall.atMost x.abs && x.abs.less firstLarge)
  x.signed (if plain then positional x.decimal 1 else scientific x.decimal)

/-- The number rounded to `places` digits after the point, a tie to the even digit. -/
def fixedText (x : Binary64) (places : Nat) : String :=
  let scaled := roundQuotient (x.units * Nat.pow 10 places) unitsPerOne
  x.signed (positional ⟨scaled, -(places : Int)⟩ places)

end MutationTesting.Binary64
