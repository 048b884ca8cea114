import SchemaDdl.Json.Basic
import SchemaDdl.Json.Token

/-!
# Documents as they are written

A document is read in two stages: its tokens are put together to a tree of what is written, and the
tree then gets its meaning. Brackets and commas are settled in the first stage; sizes of numbers,
halves of surrogate pairs, repeated keys and depth of nesting in the second.

* **`Written.read?`**: the tree of a text, from a machine that takes one token at a time.
* **`Written.value?`**: the value of a tree, with a limit on nesting.
* **`Json.read?`**: both, for documents with the usual limit.
-/

namespace SchemaDdl.Json

/-- A tree of what is written. -/
inductive Written where
  | null
  | bool (b : Bool)
  | number (n : Literal)
  | text (s : Option String)
  | array (items : List Written)
  | object (members : List (Option String × Written))
  deriving Repr

namespace Written

/-- What surrounds a value that is being read. Finished items are kept last first. -/
inductive Frame where
  | array (items : List Written)
  | object (members : List (Option String × Written)) (name : Option String)

/-- What may come next, inside which frames, innermost first. -/
inductive Stage where
  | value (frames : List Frame)
  | firstItem (frames : List Frame)
  | firstKey (frames : List Frame)
  | key (members : List (Option String × Written)) (frames : List Frame)
  | colon (members : List (Option String × Written)) (name : Option String) (frames : List Frame)
  | done (v : Written) (frames : List Frame)

/-- Start a value. -/
def startValue (frames : List Frame) : Token → Option Stage
  | .null => some (.done .null frames)
  | .bool b => some (.done (.bool b) frames)
  | .number n => some (.done (.number n) frames)
  | .text s => some (.done (.text s) frames)
  | .openArray => some (.firstItem frames)
  | .openObject => some (.firstKey frames)
  | _ => none

/-- What follows a finished value inside its frame. -/
def afterValue (v : Written) : List Frame → Token → Option Stage
  | .array items :: frames, .comma => some (.value (.array (v :: items) :: frames))
  | .array items :: frames, .closeArray => some (.done (.array (v :: items).reverse) frames)
  | .object members name :: frames, .comma => some (.key ((name, v) :: members) frames)
  | .object members name :: frames, .closeObject =>
    some (.done (.object ((name, v) :: members).reverse) frames)
  | _, _ => none

/-- Take one token. -/
def Stage.take? : Stage → Token → Option Stage
  | .value frames, t => startValue frames t
  | .firstItem frames, .closeArray => some (.done (.array []) frames)
  | .firstItem frames, t => startValue (.array [] :: frames) t
  | .firstKey frames, .closeObject => some (.done (.object []) frames)
  | .firstKey frames, .text s => some (.colon [] s frames)
  | .firstKey _, _ => none
  | .key members frames, .text s => some (.colon members s frames)
  | .key _ _, _ => none
  | .colon members name frames, .colon => some (.value (.object members name :: frames))
  | .colon _ _ _, _ => none
  | .done v frames, t => afterValue v frames t

/-- The tree that a list of tokens spells from its first to its last. -/
def ofTokens? (tokens : List Token) : Option Written := do
  let stage ← tokens.foldlM Stage.take? (.value [])
  match stage with
  | .done v [] => some v
  | _ => none

/-- The tree of a text. -/
def read? (s : String) : Option Written := do
  ofTokens? (← Token.scan? s)

/-- The number that a literal stands for, unless it is too large for any. A negative zero is a
    real number, since no whole one is. -/
def numberOf? (n : Literal) : Option JsonNumber :=
  if n.whole && !n.negative && n.coefficient < Number.twoTo 64 then some (.natural n.coefficient)
  else if n.whole && n.negative && 0 < n.coefficient && n.coefficient ≤ Number.twoTo 63 then
    some (.negative n.coefficient)
  else (Number.Binary64.ofDecimal? n.negative n.coefficient n.exponent).map .real

mutual

/-- The value of a tree, with arrays and objects inside one another at most `depth` deep. -/
def value? (depth : Nat) : Written → Option Json
  | .null => some .null
  | .bool b => some (.bool b)
  | .number n => (numberOf? n).map .number
  | .text s => s.map .text
  | .array items =>
    if depth = 0 then none else (values? (depth - 1) items).map .array
  | .object members =>
    if depth = 0 then none else (memberValues? (depth - 1) members).map ofMembers

/-- The values of a list of trees. -/
def values? (depth : Nat) : List Written → Option (List Json)
  | [] => some []
  | w :: rest => do
    let v ← value? depth w
    let vs ← values? depth rest
    some (v :: vs)

/-- The keys and values of a list of members. -/
def memberValues? (depth : Nat) : List (Option String × Written) → Option (List (String × Json))
  | [] => some []
  | (k, w) :: rest => do
    let k ← k
    let v ← value? depth w
    let vs ← memberValues? depth rest
    some ((k, v) :: vs)

end

end Written

/-- How deep arrays and objects may lie inside one another. -/
def depthLimit : Nat := 127

/-- The value that a text spells. -/
def read? (s : String) : Option Json := do
  (← Written.read? s).value? depthLimit

end SchemaDdl.Json
