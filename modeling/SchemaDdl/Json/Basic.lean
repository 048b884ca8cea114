import SchemaDdl.Number.Shortest
import SchemaDdl.OrderedMap
import SchemaDdl.Text.Pieces

/-!
# Documents as values

* **`JsonNumber`**: three classes. A number without sign, fraction and exponent that fits 64 bits
  is `natural`; a negative whole number that fits 64 bits is `negative`; every other one is `real`.
* **`Json`**: values. The members of an object keep their order and have distinct keys when they
  come from a document, see `Json.ofMembers`.
* **`Json.text`**: the compact form, without blanks.
-/

namespace SchemaDdl

/-- A number of a document. `negative n` stands for `-n`. -/
inductive JsonNumber where
  | natural (n : Nat)
  | negative (n : Nat)
  | real (x : Number.Binary64)
  deriving DecidableEq, Repr

namespace JsonNumber

/-- The text of a number. -/
def text : JsonNumber → String
  | natural n => toString n
  | negative n => Text.concat ["-", toString n]
  | real x => x.text

/-- Whether a number is zero. -/
def isZero : JsonNumber → Bool
  | natural n => n == 0
  | negative n => n == 0
  | real x => x.isZero

/-- A number as a count below 2 ^ 32. A real number is no count, even if it is whole. -/
def count? : JsonNumber → Option Nat
  | natural n => if n < Number.twoTo 32 then some n else none
  | negative _ => none
  | real _ => none

end JsonNumber

/-- A value of a document. -/
inductive Json where
  | null
  | bool (b : Bool)
  | number (n : JsonNumber)
  | text (s : String)
  | array (items : List Json)
  | object (members : List (String × Json))
  deriving Repr

namespace Json

/-- An object from members in the order in which they are written. A key that is written again
    keeps its first place and takes the last value. -/
def ofMembers (members : List (String × Json)) : Json :=
  object (OrderedMap.ofList members).entries

/-- The hexadecimal escape of a control character. -/
def controlEscape (c : Char) : List Char :=
  let digit := fun (n : Nat) => Char.ofNat (if n < 10 then 48 + n else 87 + n)
  ['\\', 'u', '0', '0', digit (c.toNat / 16), digit (c.toNat % 16)]

/-- One character inside a string. Quotes, backslashes and characters below the blank are escaped,
    and nothing else. -/
def escaped (c : Char) : List Char :=
  match c.toNat with
  | 0x22 => ['\\', c]
  | 0x5C => ['\\', c]
  | 0x08 => ['\\', 'b']
  | 0x09 => ['\\', 't']
  | 0x0A => ['\\', 'n']
  | 0x0C => ['\\', 'f']
  | 0x0D => ['\\', 'r']
  | n => if n < 0x20 then controlEscape c else [c]

/-- A string in quotes. -/
def quotedText (s : String) : String :=
  Text.concat ["\"", String.ofList (s.toList.flatMap escaped), "\""]

mutual

/-- The compact form of a value. -/
def compact : Json → String
  | null => "null"
  | bool b => if b then "true" else "false"
  | number n => n.text
  | text s => quotedText s
  | array items => Text.concat ["[", compactItems items, "]"]
  | object members => Text.concat ["\x7b", compactMembers members, "\x7d"]

/-- Items with commas between them. -/
def compactItems : List Json → String
  | [] => ""
  | [v] => compact v
  | v :: rest => Text.concat [compact v, ",", compactItems rest]

/-- Members with commas between them. -/
def compactMembers : List (String × Json) → String
  | [] => ""
  | [(k, v)] => Text.concat [quotedText k, ":", compact v]
  | (k, v) :: rest => Text.concat [quotedText k, ":", compact v, ",", compactMembers rest]

end

/-- Whether a value is `null`. -/
def isNull : Json → Bool
  | null => true
  | _ => false

end Json

end SchemaDdl
