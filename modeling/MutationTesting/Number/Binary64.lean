/-! Double precision numbers of the binary floating point standard, as data.

A number is kept as its sign, exponent and fraction fields, so that equality of values is equality
of representations. Every operation is "exact, then rounded once": the exact result is a quotient of
natural numbers, and `ofRatio` is the only place that rounds. -/
namespace MutationTesting

/-- A double: sign, biased exponent and fraction fields. -/
structure Binary64 where
  negative : Bool
  exponent : Fin 2048
  fraction : Fin 4503599627370496
deriving DecidableEq

namespace Binary64

/-- The exponent and fraction fields read as one number. Magnitudes are ordered like these. -/
def code (x : Binary64) : Nat := x.exponent.val * 4503599627370496 + x.fraction.val

def infinityCode : Nat := 2047 * 4503599627370496

/-- The number with a sign and a code; codes past the finite ones give an infinity. -/
def ofCode (negative : Bool) (code : Nat) : Binary64 :=
  if code < infinityCode then
    ⟨negative, Fin.ofNat 2048 (code / 4503599627370496), Fin.ofNat _ code⟩
  else ⟨negative, 2047, 0⟩

def zero : Binary64 := ⟨false, 0, 0⟩

def nan : Binary64 := ⟨false, 2047, 2251799813685248⟩

instance : Inhabited Binary64 := ⟨zero⟩

/-- The sixty-four bits as one number, sign bit first. -/
def bits (x : Binary64) : Nat :=
  (if x.negative then 9223372036854775808 else 0) + x.code

def isFinite (x : Binary64) : Bool := x.code < infinityCode

def isNaN (x : Binary64) : Bool := infinityCode < x.code

def isInfinite (x : Binary64) : Bool := x.code == infinityCode

def isZero (x : Binary64) : Bool := x.code == 0

/-- The fraction with the implicit leading bit of normal numbers. -/
def significand (x : Binary64) : Nat :=
  if x.exponent.val = 0 then x.fraction.val else 4503599627370496 + x.fraction.val

/-- How many places the significand is shifted, counted from the smallest positive number. -/
def shift (x : Binary64) : Nat := x.exponent.val - 1

/-- The magnitude of a finite number, as a multiple of the smallest positive number. -/
def units (x : Binary64) : Nat := x.significand * Nat.pow 2 x.shift

def unitsPerOne : Nat := Nat.pow 2 1074

/-- The natural number nearest to a quotient; halfway between two, the even one. -/
def roundQuotient (num den : Nat) : Nat :=
  let q := num / den
  let r := num % den
  if 2 * r < den then q
  else if den < 2 * r then q + 1
  else if q % 2 = 0 then q else q + 1

/-- The double nearest to `num / den`, ties to the even fraction, for a positive `den`. -/
def ofRatio (negative : Bool) (num den : Nat) : Binary64 :=
  let scaled := num * unitsPerOne
  let places := (scaled / den).log2 - 52
  ofCode negative (places * 4503599627370496 + roundQuotient scaled (den * Nat.pow 2 places))

def ofNat (n : Nat) : Binary64 := ofRatio false n 1

def ofInt (i : Int) : Binary64 := ofRatio (decide (i < 0)) i.natAbs 1

def neg (x : Binary64) : Binary64 := { x with negative := !x.negative }

def abs (x : Binary64) : Binary64 := { x with negative := false }

/-- A whole number that orders all numbers but NaN; both zeros have key zero. -/
def orderKey (x : Binary64) : Int := if x.negative then -(x.code : Int) else x.code

/-- Numeric equality: NaN equals nothing and the two zeros are equal. -/
def numEq (x y : Binary64) : Bool := !x.isNaN && !y.isNaN && x.orderKey == y.orderKey

def less (x y : Binary64) : Bool := !x.isNaN && !y.isNaN && decide (x.orderKey < y.orderKey)

def atMost (x y : Binary64) : Bool := !x.isNaN && !y.isNaN && decide (x.orderKey ≤ y.orderKey)

def mul (x y : Binary64) : Binary64 :=
  let sign := x.negative != y.negative
  if x.isNaN || y.isNaN then nan
  else if x.isInfinite || y.isInfinite then
    if x.isZero || y.isZero then nan else ofCode sign infinityCode
  else ofRatio sign (x.units * y.units) (unitsPerOne * unitsPerOne)

def div (x y : Binary64) : Binary64 :=
  let sign := x.negative != y.negative
  if x.isNaN || y.isNaN then nan
  else if x.isInfinite then
    if y.isInfinite then nan else ofCode sign infinityCode
  else if y.isInfinite then ofCode sign 0
  else if y.isZero then
    if x.isZero then nan else ofCode sign infinityCode
  else ofRatio sign x.units y.units

def decimalLength (n : Nat) : Nat := if n = 0 then 0 else (Nat.toDigits 10 n).length

/-- The double nearest to `mantissa · 10 ^ exponent`. Exponents far outside the range of doubles
are settled by the number of digits alone. -/
def ofDecimal (negative : Bool) (mantissa : Nat) (exponent : Int) : Binary64 :=
  let magnitude : Int := decimalLength mantissa + exponent
  if mantissa = 0 then ⟨negative, 0, 0⟩
  else if 320 < magnitude then ofCode negative infinityCode
  else if magnitude < -400 then ⟨negative, 0, 0⟩
  else if 0 ≤ exponent then ofRatio negative (mantissa * Nat.pow 10 exponent.toNat) 1
  else ofRatio negative mantissa (Nat.pow 10 (-exponent).toNat)

end Binary64
end MutationTesting
