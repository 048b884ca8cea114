import SchemaDdl.Number.Binary64

/-!
# Reading decimal numerals

A numeral that stands in a text, as opposed to a document, is read leniently: a sign of either kind,
digits with a point anywhere among them, and an exponent.

* **`Numeral.read?`**: the numeral that a whole text spells, as coefficient and power of ten.
* **`readCount?`**: whole numbers below 2 ^ 32, with an optional plus sign.
-/

namespace SchemaDdl.Number

/-- The value of a list of decimal digits. -/
def digitsValue (digits : List Char) : Nat :=
  digits.foldl (fun n c => 10 * n + (c.toNat - 48)) 0

/-- A decimal number: `coefficient * 10 ^ exponent`, negated if `negative`. -/
structure Numeral where
  negative : Bool
  coefficient : Nat
  exponent : Int
  deriving DecidableEq, Repr

/-- Split off the digits at the front. -/
def spanDigits (cs : List Char) : List Char × List Char :=
  (cs.takeWhile Char.isDigit, cs.dropWhile Char.isDigit)

/-- Split off a sign; no sign counts as plus. -/
def spanSign : List Char → Bool × List Char
  | '-' :: cs => (true, cs)
  | '+' :: cs => (false, cs)
  | cs => (false, cs)

/-- The exponent that a text spells to its end: nothing at all, or a mark, a sign and digits. -/
def readExponent? : List Char → Option Int
  | [] => some 0
  | c :: cs =>
    if c = 'e' ∨ c = 'E' then
      let (negative, cs) := spanSign cs
      let (digits, rest) := spanDigits cs
      if digits.isEmpty || !rest.isEmpty then none
      else
        let n : Int := digitsValue digits
        some (if negative then -n else n)
    else none

/-- The numeral that a text spells from its first to its last character. -/
def Numeral.read? (s : String) : Option Numeral :=
  let (negative, cs) := spanSign s.toList
  let (whole, cs) := spanDigits cs
  let (fraction, cs) :=
    match cs with
    | '.' :: rest => spanDigits rest
    | _ => ([], cs)
  if whole.isEmpty && fraction.isEmpty then none
  else
    (readExponent? cs).map fun e =>
      ⟨negative, digitsValue (whole ++ fraction), e - fraction.length⟩

/-- The binary number nearest to a numeral, when it is not too large. -/
def Numeral.toBinary64? (n : Numeral) : Option Binary64 :=
  Binary64.ofDecimal? n.negative n.coefficient n.exponent

/-- A whole number that fits 32 bits. -/
def readCount? (s : String) : Option Nat :=
  let digits :=
    match s.toList with
    | '+' :: cs => cs
    | cs => cs
  if digits.isEmpty || !digits.all Char.isDigit then none
  else
    let n := digitsValue digits
    if n < twoTo 32 then some n else none

end SchemaDdl.Number
