/-!
# Bands of characters

A character class is a list of bands, and a case table a list of shifts. Both are read through the
code point, so that a look-up is arithmetic on natural numbers.

* **`Band`**: every `step`-th code point from `first` to `last`. A step of two is what makes the
  alternating blocks of upper and lower case short.
* **`Shift`**: a band whose characters all lie at one distance from their image.
-/

namespace SchemaDdl.Text

/-- Code points from `first` to `last`, counted in steps of `step`. -/
structure Band where
  first : Nat
  last : Nat
  step : Nat
  deriving DecidableEq, Repr

/-- A band together with the image of its first code point. -/
structure Shift where
  first : Nat
  last : Nat
  step : Nat
  image : Nat
  deriving DecidableEq, Repr

/-- Whether a code point lies on a band. -/
def Band.has (b : Band) (n : Nat) : Bool :=
  b.first ≤ n && n ≤ b.last && (n - b.first) % b.step == 0

/-- Whether some band of a list has the character. -/
def inBands (bands : List Band) (c : Char) : Bool :=
  bands.any (·.has c.toNat)

/-- Where a shift sends a code point, when the point lies on its band. -/
def Shift.image? (s : Shift) (n : Nat) : Option Nat :=
  if Band.has ⟨s.first, s.last, s.step⟩ n then some (s.image + (n - s.first)) else none

/-- The first shift of a list that moves the character decides where it goes. -/
def shifted? (shifts : List Shift) (c : Char) : Option Char :=
  (shifts.findSome? (·.image? c.toNat)).map Char.ofNat

end SchemaDdl.Text
