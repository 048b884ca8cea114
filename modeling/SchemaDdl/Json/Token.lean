import SchemaDdl.Number.Numeral

/-!
# Tokens of a document

A document is first cut into tokens. A token says what is written, not what it means: a number is
its numeral, however large, and a string may hold half of a surrogate pair, which no text can. Both
are judged later, and only where the value is used.

* **`Token.scan?`**: the tokens of a text; nothing if some part of it is no token.
-/

namespace SchemaDdl.Json

/-- A number as it is written: `coefficient * 10 ^ exponent`, negated if `negative`, and `whole` if
    it has neither point nor exponent. -/
structure Literal where
  negative : Bool
  whole : Bool
  coefficient : Nat
  exponent : Int
  deriving DecidableEq, Repr

/-- A token. A string without value is one with half of a surrogate pair in it. -/
inductive Token where
  | openArray
  | closeArray
  | openObject
  | closeObject
  | comma
  | colon
  | null
  | bool (b : Bool)
  | number (n : Literal)
  | text (s : Option String)
  deriving DecidableEq, Repr

namespace Token

open Number (spanSign spanDigits digitsValue)

/-- The exponent of a number and the rest, where a mark has just been read. -/
def exponentAfterMark? (cs : List Char) : Option (Int × List Char) :=
  let (negative, cs) := spanSign cs
  let (digits, rest) := spanDigits cs
  if digits.isEmpty then none
  else
    let n : Int := digitsValue digits
    some (if negative then -n else n, rest)

/-- A number without its sign, and the rest. A leading zero stands alone; a point and an exponent
    mark must each be followed by a digit. -/
def unsigned? (negative : Bool) (cs : List Char) : Option (Literal × List Char) := do
  let (digits, rest) :=
    match cs with
    | '0' :: cs => (['0'], cs)
    | _ => spanDigits cs
  if digits.isEmpty then none
  let (fraction, rest, hasPoint) :=
    match rest with
    | '.' :: cs => let (f, cs) := spanDigits cs; (f, cs, true)
    | _ => ([], rest, false)
  if hasPoint && fraction.isEmpty then none
  let coefficient := digitsValue (digits ++ fraction)
  let shift : Int := fraction.length
  match rest with
  | c :: cs =>
    if c = 'e' ∨ c = 'E' then
      let (e, rest) ← exponentAfterMark? cs
      some (⟨negative, false, coefficient, e - shift⟩, rest)
    else some (⟨negative, !hasPoint, coefficient, -shift⟩, rest)
  | [] => some (⟨negative, !hasPoint, coefficient, -shift⟩, [])

/-- The value of a hexadecimal digit. -/
def hexValue? (c : Char) : Option Nat :=
  let n := c.toNat
  if 48 ≤ n ∧ n ≤ 57 then some (n - 48)
  else if 65 ≤ n ∧ n ≤ 70 then some (n - 55)
  else if 97 ≤ n ∧ n ≤ 102 then some (n - 87)
  else none

/-- The value of four hexadecimal digits. -/
def hexValue4? (a b c d : Char) : Option Nat := do
  let a ← hexValue? a
  let b ← hexValue? b
  let c ← hexValue? c
  let d ← hexValue? d
  some (4096 * a + 256 * b + 16 * c + d)

/-- Whether a code unit is the first half of a surrogate pair. -/
def isHighHalf (n : Nat) : Bool := 0xD800 ≤ n && n < 0xDC00

/-- Whether a code unit is the second half of a surrogate pair. -/
def isLowHalf (n : Nat) : Bool := 0xDC00 ≤ n && n < 0xE000

/-- A character or half of a pair, in front of what follows in the same string. A first half is
    completed by a second half directly behind it; halves that stay alone are kept as code units. -/
def unitBefore (n : Nat) (rest : List Nat) : List Nat :=
  match rest with
  | m :: more =>
    if isHighHalf n && isLowHalf m then
      (0x10000 + 0x400 * (n - 0xD800) + (m - 0xDC00)) :: more
    else n :: rest
  | [] => [n]

/-- What a backslash and a letter stand for. -/
def simpleEscape? (c : Char) : Option Nat :=
  match c with
  | '\\' => some 0x5C
  | '/' => some 0x2F
  | 'b' => some 0x08
  | 'f' => some 0x0C
  | 'n' => some 0x0A
  | 'r' => some 0x0D
  | 't' => some 0x09
  | _ => if c.toNat = 0x22 then some 0x22 else none

/-- The code points of a string and the rest behind its closing quote, where the opening quote has
    just been read. -/
def string? : List Char → Option (List Nat × List Char)
  | [] => none
  | '\\' :: 'u' :: a :: b :: c :: d :: cs => do
    let n ← hexValue4? a b c d
    let (units, rest) ← string? cs
    some (unitBefore n units, rest)
  | '\\' :: c :: cs => do
    let n ← simpleEscape? c
    let (units, rest) ← string? cs
    some (n :: units, rest)
  | c :: cs =>
    if c.toNat = 0x22 then some ([], cs)
    else if c.toNat < 0x20 then none
    else do
      let (units, rest) ← string? cs
      some (c.toNat :: units, rest)

/-- The text of code points, when no half of a pair stands alone among them. -/
def textOf? (units : List Nat) : Option String :=
  if units.all fun n => !(isHighHalf n || isLowHalf n) then
    some (String.ofList (units.map Char.ofNat))
  else none

/-- The word that a text begins with, and the rest. -/
def word? (word : List Char) (cs : List Char) : Option (List Char) :=
  if word.isPrefixOf cs then some (cs.drop word.length) else none

/-- Whether a character may stand between tokens. -/
def isGap (c : Char) : Bool := [0x20, 0x09, 0x0A, 0x0D].contains c.toNat

/-- The token at the front of a text that does not start with a gap, and the rest. -/
def next? (c : Char) (cs : List Char) : Option (Token × List Char) :=
  match c.toNat with
  | 0x5B => some (openArray, cs)
  | 0x5D => some (closeArray, cs)
  | 0x7B => some (openObject, cs)
  | 0x7D => some (closeObject, cs)
  | 0x2C => some (comma, cs)
  | 0x3A => some (colon, cs)
  | 0x22 => (string? cs).map fun (units, rest) => (text (textOf? units), rest)
  | 0x6E => (word? ['u', 'l', 'l'] cs).map fun rest => (null, rest)
  | 0x74 => (word? ['r', 'u', 'e'] cs).map fun rest => (bool true, rest)
  | 0x66 => (word? ['a', 'l', 's', 'e'] cs).map fun rest => (bool false, rest)
  | 0x2D => (unsigned? true cs).map fun (n, rest) => (number n, rest)
  | _ => (unsigned? false (c :: cs)).map fun (n, rest) => (number n, rest)

/-- The tokens of a text, each at least one character long. -/
def scanFrom? : (fuel : Nat) → List Char → Option (List Token)
  | _, [] => some []
  | 0, _ :: _ => none
  | fuel + 1, c :: cs =>
    if isGap c then scanFrom? fuel cs
    else do
      let (token, rest) ← next? c cs
      let tokens ← scanFrom? fuel rest
      some (token :: tokens)

/-- The tokens of a text. -/
def scan? (s : String) : Option (List Token) :=
  scanFrom? s.toList.length s.toList

end Token

end SchemaDdl.Json
