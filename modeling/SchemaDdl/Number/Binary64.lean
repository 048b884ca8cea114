import SchemaDdl.Number.Power

/-!
# Binary floating point by whole numbers

A finite number of the 64-bit binary format is a sign, a significand below 2 ^ 53 and an exponent
of two. Everything here is arithmetic on natural numbers; no hardware float is involved.

* **`Binary64.ofDecimal?`**: the number nearest to a decimal one, a half going to the even
  significand; nothing when the decimal is too large.
* **`Binary64.isZero`**: both zeros, and only they.
-/

namespace SchemaDdl.Number

/-- A finite number of the format: `significand * 2 ^ exponent`, negated if `negative`. The
    significand has its top bit set, unless the exponent is the least one. -/
structure Binary64 where
  negative : Bool
  significand : Nat
  exponent : Int
  deriving DecidableEq, Repr

namespace Binary64

/-- The least exponent; at it the significand may be small. -/
def leastExponent : Int := -1074

/-- The greatest exponent of a finite number. -/
def greatestExponent : Int := 971

/-- Count of bits of a significand. -/
def width : Nat := 53

/-- Zero, of either sign. -/
def zero (negative : Bool) : Binary64 := ⟨negative, 0, leastExponent⟩

/-- Whether the number is one of the two zeros. -/
def isZero (x : Binary64) : Bool := x.significand == 0

/-- A quotient of natural numbers rounded to the nearest whole one, a half to the even one. -/
def roundQuotient (num den : Nat) : Nat :=
  let q := num / den
  let r := num % den
  if 2 * r < den then q
  else if den < 2 * r then q + 1
  else if q % 2 = 0 then q else q + 1

/-- A quotient divided by a power of two, as numerator and denominator. -/
def scaled (num den : Nat) (exponent : Int) : Nat × Nat :=
  if 0 ≤ exponent then (num, den * twoTo exponent.toNat) else (num * twoTo (-exponent).toNat, den)

/-- The exponent that gives the significand of a positive quotient its full width, or the least
    exponent if that is greater. -/
def fittingExponent (num den : Nat) : Int :=
  let guess : Int := max (num.log2 - den.log2 - width : Int) leastExponent
  let (n, d) := scaled num den guess
  if n / d < twoTo width then guess else guess + 1

/-- The number nearest to a positive quotient. -/
def ofQuotient? (negative : Bool) (num den : Nat) : Option Binary64 :=
  let e := fittingExponent num den
  let (n, d) := scaled num den e
  let m := roundQuotient n d
  let (m, e) := if m = twoTo width then (twoTo (width - 1), e + 1) else (m, e)
  if e ≤ greatestExponent then some ⟨negative, m, e⟩ else none

/-- The number nearest to `coefficient * 10 ^ exponent`. Decimals far outside the range of the
    format are settled by their count of digits, so that no huge power is computed. -/
def ofDecimal? (negative : Bool) (coefficient : Nat) (exponent : Int) : Option Binary64 :=
  if coefficient = 0 then some (zero negative)
  else
    let digits : Int := (Nat.toDigits 10 coefficient).length
    if 310 < digits + exponent then none
    else if digits + exponent < -330 then some (zero negative)
    else if 0 ≤ exponent then ofQuotient? negative (coefficient * tenTo exponent.toNat) 1
    else ofQuotient? negative coefficient (tenTo (-exponent).toNat)

end Binary64

end SchemaDdl.Number
