import SchemaDdl.Schema.Action
import SchemaDdl.Schema.Vendor
import SchemaDdl.Text.Pieces

/-!
# Relations

A relation is a foreign key from the entity that owns it to a target entity. The target is known by
name, so that it may be declared later; finalizing a database binds it.

* **`RelationName`**: a name is chosen by the author, or derived and then perhaps fixed. A derived
  name that is not fixed is computed anew on every read.
* **`Relation.addReference`**, **`Relation.clearReferences`**, **`Relation.setTarget`**: whatever
  changes the shape of a relation drops a fixed derived name, and never a chosen one.

The pairs of fields are kept as pairs, so there are always as many local fields as foreign ones.
-/

namespace SchemaDdl

/-- A position in a database, for what stands in one. -/
abbrev EntityId := Option Nat

/-- Where a relation stands: the position of its owner, and its place among the owner's
    relations. -/
structure RelationId where
  entity : EntityId
  index : Option Nat
  deriving DecidableEq, Repr

/-- The id of a relation that no entity owns. -/
def RelationId.detached : RelationId := ⟨none, none⟩

/-- The text of a position for a log: a position not yet given shows as the greatest word. -/
def positionText (p : Option Nat) : String := toString (p.getD 18446744073709551615)

/-- The text of an entity's position for a log. -/
def EntityId.debugText (id : EntityId) : String :=
  Text.concat ["EntityId(", positionText id, ")"]

/-- The text of a relation's place for a log. -/
def RelationId.debugText (id : RelationId) : String :=
  Text.concat ["RelationId(", positionText id.entity, "/", positionText id.index, ")"]

/-- The name of a relation: chosen, or derived and possibly fixed. -/
inductive RelationName where
  | explicit (name : String)
  | auto (fixed : Option String)
  deriving DecidableEq, Repr

namespace RelationName

/-- The name that an author sets. An empty one asks for a derived name. -/
def ofText (name : String) : RelationName :=
  if name.isEmpty then auto none else explicit name

/-- The name as far as it is stored. -/
def stored? : RelationName → Option String
  | explicit name => some name
  | auto fixed => fixed

/-- The name that the author chose. -/
def explicit? : RelationName → Option String
  | explicit name => some name
  | auto _ => none

/-- Fix a derived name. -/
def fix (n : RelationName) (name : String) : RelationName :=
  match n with
  | explicit chosen => explicit chosen
  | auto _ => auto (some name)

/-- Forget a fixed derived name. -/
def reset : RelationName → RelationName
  | explicit name => explicit name
  | auto _ => auto none

end RelationName

/-- A pair of a field of the owner and a field of the target. -/
structure Reference where
  localField : String
  foreignField : String
  deriving DecidableEq, Repr

/-- Join clause of a relation unless it says otherwise. -/
def innerJoin : String := "INNER JOIN"

/-- A foreign key. -/
structure Relation where
  id : RelationId
  name : RelationName
  /-- Name of the accessor on the owner's side. -/
  field : Option String
  /-- Name of the accessor on the target's side. -/
  refField : Option String
  refName : Option String
  /-- Name of the target entity, short or qualified. -/
  target : String
  /-- Position of the target, once finalizing has found it. -/
  bound : EntityId
  foreignSchema : Option String
  references : List Reference
  onUpdate : ReferentialAction
  onDelete : ReferentialAction
  defaultJoin : String
  skipSql : Bool
  skipCodeGeneration : Bool
  vendor : VendorBlocks
  deriving DecidableEq, Repr

namespace Relation

/-- A relation with nothing but a target. -/
def toTarget (target : String) : Relation :=
  { id := .detached, name := .auto none, field := none, refField := none, refName := none, target,
    bound := none, foreignSchema := none, references := [], onUpdate := .none, onDelete := .none,
    defaultJoin := innerJoin, skipSql := false, skipCodeGeneration := false, vendor := .empty }

/-- The owner's fields in order. -/
def localFields (r : Relation) : List String := r.references.map (·.localField)

/-- The target's fields, or paths to them, in order. -/
def foreignFields (r : Relation) : List String := r.references.map (·.foreignField)

/-- Whether a name is one of the owner's fields of the relation. -/
def hasLocalField (r : Relation) (name : String) : Bool := r.localFields.contains name

/-- Whether the relation has several pairs. -/
def isComposite (r : Relation) : Bool := 1 < r.references.length

-- ── Names ─────────────────────────────────────────────────────────────────────

/-- The name as far as it is stored: a chosen one, or a derived one that is fixed. -/
def storedName? (r : Relation) : Option String := r.name.stored?

/-- Whether the author chose the name. -/
def hasName (r : Relation) : Bool := r.name.explicit?.isSome

/-- The accessor on the owner's side: the one that is set and not empty, else the chosen name. -/
def accessor? (r : Relation) : Option String :=
  match r.field with
  | some field => if field.isEmpty then r.name.explicit? else some field
  | none => r.name.explicit?

/-- Set the name; an empty one asks for a derived name. -/
def setName (r : Relation) (name : String) : Relation := { r with name := .ofText name }

/-- Fix the name if it is a derived one. -/
def fixName (r : Relation) (name : String) : Relation := { r with name := r.name.fix name }

-- ── Shape ─────────────────────────────────────────────────────────────────────

/-- Add a pair at the end. -/
def addReference (r : Relation) (pair : Reference) : Relation :=
  { r with references := r.references ++ [pair], name := r.name.reset }

/-- Drop all pairs. -/
def clearReferences (r : Relation) : Relation :=
  { r with references := [], name := r.name.reset }

/-- Point at another target. An earlier binding does not count any more. -/
def setTarget (r : Relation) (target : String) : Relation :=
  { r with target, bound := none, name := r.name.reset }

-- ── Mappings ──────────────────────────────────────────────────────────────────

/-- From local to foreign fields. Of several pairs with one local field the last counts. -/
def localToForeign (r : Relation) : OrderedMap String String :=
  .ofList (r.references.map fun p => (p.localField, p.foreignField))

/-- From foreign to local fields. Of several pairs with one foreign field the last counts. -/
def foreignToLocal (r : Relation) : OrderedMap String String :=
  .ofList (r.references.map fun p => (p.foreignField, p.localField))

/-- The foreign field of a local one. -/
def foreignOf? (r : Relation) (name : String) : Option String := r.localToForeign.get? name

/-- The local field of a foreign one. -/
def localOf? (r : Relation) (name : String) : Option String := r.foreignToLocal.get? name

end Relation

end SchemaDdl
