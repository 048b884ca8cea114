import SchemaDdl.Number.Binary64

/-!
# The shortest decimal that reads back

Every decimal strictly inside a certain interval around a binary number reads back as that number;
the ends of the interval do too when the significand is even. For a growing count of digits, the two
neighbours of the number on the grid of decimals with that many digits are tested against the
interval. The first grid with a hit gives the digits, the nearer neighbour being preferred.

* **`shortestDigits`**: the digits and the decimal exponent of the first of them.
* **`Binary64.text`**: positional notation for moderate exponents, scientific otherwise.
-/

namespace SchemaDdl.Number

/-- A number and the interval that rounds to it, over one common denominator. -/
structure Interval where
  low : Nat
  value : Nat
  high : Nat
  unit : Nat
  closed : Bool

/-- The interval of a positive number. Below a power of two the neighbours stand closer by half. -/
def Binary64.interval (x : Binary64) : Interval :=
  let narrow := x.significand = twoTo (Binary64.width - 1) ∧ Binary64.leastExponent < x.exponent
  let unit := twoTo (2 - x.exponent).toNat
  let up := twoTo (x.exponent - 2).toNat
  let v := 4 * x.significand * up
  ⟨v - (if narrow then 1 else 2) * up, v, v + 2 * up, unit, x.significand % 2 = 0⟩

/-- Whether `numerator / denominator`, both over the interval's own denominator, lies inside. -/
def Interval.has (i : Interval) (n : Nat) : Bool :=
  if i.closed then i.low ≤ n && n ≤ i.high else i.low < n && n < i.high

/-- The interval with all of its ends multiplied by a power of ten. -/
def Interval.magnified (i : Interval) (power : Nat) : Interval :=
  let factor := tenTo power
  { i with low := i.low * factor, value := i.value * factor, high := i.high * factor }

/-- How many times a value below `unit` is multiplied by ten until it reaches `unit`. -/
def leadingZeros (unit : Nat) : (fuel : Nat) → (value : Nat) → Nat
  | 0, _ => 0
  | fuel + 1, value => if unit ≤ value then 0 else leadingZeros unit fuel (10 * value) + 1

/-- The decimal exponent of the first digit of the interval's value. -/
def Interval.magnitude (i : Interval) : Int :=
  if i.unit ≤ i.value then (Nat.toDigits 10 (i.value / i.unit)).length - 1
  else - (leadingZeros i.unit 400 i.value : Int)

/-- The neighbour of the value on the grid of multiples of `10 ^ place` that lies in the
    interval. -/
def Interval.onGrid? (i : Interval) (place : Int) : Option Nat :=
  let j := if 0 ≤ place then i else i.magnified (-place).toNat
  let unit := if 0 ≤ place then i.unit * tenTo place.toNat else i.unit
  let below := j.value / unit
  let rest := j.value % unit
  match j.has (below * unit), j.has ((below + 1) * unit) with
  | true, true =>
    some (if 2 * rest < unit then below
      else if unit < 2 * rest then below + 1
      else if below % 2 = 0 then below else below + 1)
  | true, false => some below
  | false, true => some (below + 1)
  | false, false => none

/-- The first hit on grids of growing fineness. -/
def Interval.search (i : Interval) (magnitude : Int) : (fuel : Nat) → (digits : Nat) → Nat × Int
  | 0, digits => (0, magnitude - digits)
  | fuel + 1, digits =>
    let place := magnitude - digits
    match i.onGrid? place with
    | some n => (n, place)
    | none => i.search magnitude fuel (digits + 1)

/-- The digits of a positive number, without zeros at the end, and the exponent of the first. -/
def shortestDigits (x : Binary64) : List Char × Int :=
  let i := x.interval
  let (n, place) := i.search i.magnitude 18 0
  let digits := Nat.toDigits 10 n
  let kept := (digits.reverse.dropWhile (· == '0')).reverse
  (kept, place + digits.length - 1)

/-- Exponents from `-5` to `15` are written positionally, with at least one digit on either side of
    the point. All others are written with one digit before the point, and with no point if that is
    the only digit; their exponent always has a sign. -/
def decimalText (digits : List Char) (exponent : Int) : List Char :=
  if -5 ≤ exponent ∧ exponent ≤ 15 then
    if exponent < 0 then
      '0' :: '.' :: (List.replicate (-exponent - 1).toNat '0' ++ digits)
    else
      let whole := (exponent + 1).toNat
      if digits.length ≤ whole then
        digits ++ List.replicate (whole - digits.length) '0' ++ ['.', '0']
      else digits.take whole ++ '.' :: digits.drop whole
  else
    let mark := if exponent < 0 then ['e', '-'] else ['e', '+']
    let point := if digits.length ≤ 1 then [] else ['.']
    digits.take 1 ++ point ++ digits.drop 1 ++ mark ++ Nat.toDigits 10 exponent.natAbs

/-- The text of a number. -/
def Binary64.text (x : Binary64) : String :=
  let sign := if x.negative then ['-'] else []
  let body :=
    if x.isZero then ['0', '.', '0']
    else
      let (digits, exponent) := shortestDigits x
      decimalText digits exponent
  String.ofList (sign ++ body)

end SchemaDdl.Number
