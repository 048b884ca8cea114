import SchemaDdl.Document.Scalar
import SchemaDdl.Error
import SchemaDdl.Json.Basic

/-!
# Nodes of a document

A node is an object of a document, seen without the case of its keys and without its `null` members,
together with the place where it stands. All reading goes through nodes, and every failure names the
place of what is wrong.

* **`Node.text?`**, **`Node.scalar?`**, **`Node.flag?`**, **`Node.count?`**, **`Node.list`**,
  **`Node.oneOf?`**: members by what they should be. A missing member is no failure.
* **`Node.requiredText`**: a member that must be there and must not be blank.
* **`Node.children`**: the objects of a collection, which may be spelled in plural or in singular,
  and as an array or as a single object.
-/

namespace SchemaDdl.Document

/-- What can be wrong at a place of a document. -/
inductive Defect where
  | notAnObject
  | notAString (found : Json)
  | notAScalar (found : Json)
  | notABoolean (found : Json)
  | notACount
  | notObjects (found : Json)
  | blank
  | absent
  | notOneOf (value : String) (allowed : List String)
  | noEntities
  | noFields
  | unknownType (name : String)
  | unknownIdMethod (name : String)
  | twoDefaults

/-- The wording of a defect. -/
def Defect.message : Defect → String
  | notAnObject => "expected an object"
  | notAString found => Text.concat ["expected a string, found `", found.compact, "`"]
  | notAScalar found => Text.concat ["expected a scalar, found `", found.compact, "`"]
  | notABoolean found => Text.concat ["expected a boolean, found `", found.compact, "`"]
  | notACount => "expected a non-negative integer"
  | notObjects found => Text.concat ["expected a list of objects, found `", found.compact, "`"]
  | blank => "cannot be empty"
  | absent => "is required"
  | notOneOf value allowed =>
    Text.concat ["`", value, "` is not one of ", Text.join ", " allowed]
  | noEntities => "at least one entity is required"
  | noFields => "at least one field is required"
  | unknownType name => Text.concat ["unsupported field type `", Text.upper name, "`"]
  | unknownIdMethod name => Text.concat ["unknown id method `", name, "`"]
  | twoDefaults => "`default` and `defaultExpr` are mutually exclusive"

/-- A defect at a place, as an error. -/
def Defect.error (d : Defect) (path : DocumentPath) : Error := .ingestion path d.message

/-- An object of a document: its place, and its members under keys in lower case. -/
structure Node where
  path : DocumentPath
  members : OrderedMap String Json

namespace Node

/-- Members as a node keeps them. Of keys that differ in case only, the last one counts. -/
def membersOf (members : List (String × Json)) : OrderedMap String Json :=
  .ofList ((members.filter (!·.2.isNull)).map fun m => (Text.lower m.1, m.2))

/-- The node of an object. -/
def of (path : DocumentPath) (v : Json) : Except Error Node :=
  match v with
  | .object members => .ok ⟨path, membersOf members⟩
  | _ => .error (Defect.notAnObject.error path)

/-- The value of a member, in whatever case its key is asked for. -/
def get? (n : Node) (key : String) : Option Json := n.members.get? (Text.lower key)

/-- Whether there is such a member. -/
def has (n : Node) (key : String) : Bool := (n.get? key).isSome

/-- A defect of a member, under the spelling by which it was asked for. -/
def defect (n : Node) (key : String) (d : Defect) : Error := d.error (n.path.key key)

-- ── Scalars ───────────────────────────────────────────────────────────────────

/-- A string. -/
def text? (n : Node) (key : String) : Except Error (Option String) :=
  match n.get? key with
  | none => .ok none
  | some (.text s) => .ok (some s)
  | some found => .error (n.defect key (.notAString found))

/-- A string that must be there and must not be blank. -/
def requiredText (n : Node) (key : String) : Except Error String :=
  match n.text? key with
  | .error e => .error e
  | .ok (some s) => if Text.isBlankText s then .error (n.defect key .blank) else .ok s
  | .ok none => .error (n.defect key .absent)

/-- Any scalar, as a text. -/
def scalar? (n : Node) (key : String) : Except Error (Option String) :=
  match n.get? key with
  | none => .ok none
  | some (.text s) => .ok (some s)
  | some (.bool b) => .ok (some (if b then "true" else "false"))
  | some (.number x) => .ok (some x.text)
  | some found => .error (n.defect key (.notAScalar found))

/-- A truth value, or a number or text that stands for one. -/
def flag? (n : Node) (key : String) : Except Error (Option Bool) :=
  match n.get? key with
  | none => .ok none
  | some (.bool b) => .ok (some b)
  | some (.number x) => .ok (some (!x.isZero))
  | some (.text s) => .ok (some (truthOf s))
  | some found => .error (n.defect key (.notABoolean found))

/-- A truth value with a default. -/
def flag (n : Node) (key : String) (default : Bool) : Except Error Bool :=
  (n.flag? key).map (·.getD default)

/-- The count that a value stands for. -/
def countOf? : Json → Option Nat
  | .number x => x.count?
  | .text s => Number.readCount? (Text.trim s)
  | _ => none

/-- A whole number below 2 ^ 32, as a number or a text. -/
def count? (n : Node) (key : String) : Except Error (Option Nat) :=
  match n.get? key with
  | none => .ok none
  | some v =>
    match countOf? v with
    | some k => .ok (some k)
    | none => .error (n.defect key .notACount)

/-- The items of an array of strings, each trimmed. -/
def stringItems (n : Node) (key : String) : List Json → Except Error (List String)
  | [] => .ok []
  | .text s :: rest => (n.stringItems key rest).map (Text.trim s :: ·)
  | found :: _ => .error (n.defect key (.notAString found))

/-- A list of texts: an array of strings, or a scalar with items between commas. -/
def list (n : Node) (key : String) : Except Error (List String) :=
  match n.get? key with
  | none => .ok []
  | some (.array items) => n.stringItems key items
  | some _ => (n.scalar? key).map fun s => listOf (s.getD "")

/-- A scalar that must be one of some words, in whatever case; gives the word. -/
def oneOf? (n : Node) (key : String) (allowed : List String) : Except Error (Option String) :=
  match n.scalar? key with
  | .error e => .error e
  | .ok none => .ok none
  | .ok (some s) =>
    let word := Text.upper (Text.trim s)
    if allowed.contains word then .ok (some word)
    else .error (n.defect key (.notOneOf s allowed))

-- ── Collections ───────────────────────────────────────────────────────────────

/-- The nodes of the items of an array, from a position on. -/
def itemsFrom (path : DocumentPath) : Nat → List Json → Except Error (List Node)
  | _, [] => .ok []
  | i, v :: rest =>
    match of (path.item i) v with
    | .error e => .error e
    | .ok node =>
      match itemsFrom path (i + 1) rest with
      | .error e => .error e
      | .ok nodes => .ok (node :: nodes)

/-- The nodes of a collection that is spelled with a given key. -/
def collection (n : Node) (key : String) (v : Json) : Except Error (List Node) :=
  match v with
  | .array items => itemsFrom (n.path.key key) 0 items
  | .object members => .ok [⟨n.path.key key, membersOf members⟩]
  | found => .error (n.defect key (.notObjects found))

/-- The objects of a collection. If both spellings are there, the plural one counts. -/
def children (n : Node) (plural singular : String) : Except Error (List Node) :=
  match n.get? plural, n.get? singular with
  | some v, _ => n.collection plural v
  | none, some v => n.collection singular v
  | none, none => .ok []

end Node

end SchemaDdl.Document
