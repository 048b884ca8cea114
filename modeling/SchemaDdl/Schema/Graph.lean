import SchemaDdl.Schema.Resolution

/-!
# Relations as a graph

Questions about how relations and keys lie to one another.

* Key tests compare lists of names with a primary key by length and membership.
* **`Relation.inverse?`**: the relation of the target that points back with the swapped pairs.
* **`Relation.multiplicity`**: whether a target row can have several referencing rows.
* **`Entity.referrers`**, **`Entity.crossRelations`**: who points here, and what lies behind a
  junction.
-/

namespace SchemaDdl

/-- How many rows of the owner may refer to one row of the target. -/
inductive Multiplicity where
  | oneToOne
  | manyToOne
  deriving DecidableEq, Repr

namespace Relation

-- ── Keys ──────────────────────────────────────────────────────────────────────

/-- Whether no local field may be null. -/
def allLocalRequired (r : Relation) (db : Database) : Except Error Bool :=
  (r.localFieldsIn db).map (·.all (·.isNotNull))

/-- Whether some local field may not be null. -/
def anyLocalRequired (r : Relation) (db : Database) : Except Error Bool :=
  (r.localFieldsIn db).map (·.any (·.isNotNull))

/-- The local fields in the owner's primary key. -/
def localKeys (r : Relation) (db : Database) : Except Error (List Field) :=
  (r.localFieldsIn db).map (·.filter (·.primaryKey))

/-- Whether some local field is in the owner's primary key. -/
def anyLocalKey (r : Relation) (db : Database) : Except Error Bool :=
  (r.localKeys db).map (!·.isEmpty)

/-- Whether no row can be written without a value for some local key field. -/
def anyLocalKeyRequired (r : Relation) (db : Database) : Except Error Bool :=
  (r.localKeys db).map (·.any fun f => f.isNotNull && !f.hasDefault)

/-- The foreign fields in the target's primary key. -/
def foreignKeys (r : Relation) (db : Database) : Except Error (List Field) :=
  (r.foreignFieldsIn db).map (·.filter (·.primaryKey))

/-- Whether some foreign field is in the target's primary key. -/
def anyForeignKey (r : Relation) (db : Database) : Except Error Bool :=
  (r.foreignKeys db).map (!·.isEmpty)

/-- Whether the local fields are the owner's primary key, all of it. -/
def isLocalKey (r : Relation) (db : Database) : Bool :=
  match r.owner? db with
  | none => false
  | some owner =>
    owner.primaryKeyNames.length == r.localFields.length
      && owner.primaryKeyNames.all r.hasLocalField

/-- Whether the resolved foreign fields are the target's primary key, all of it. -/
def isForeignKey (r : Relation) (db : Database) : Bool :=
  match r.targetEntity? db, r.foreignFieldsIn db with
  | some target, .ok foreign =>
    target.primaryKeyNames.length == foreign.length
      && target.primaryKeyNames.all (foreign.map (·.name)).contains
  | _, _ => false

-- ── Inverses ──────────────────────────────────────────────────────────────────

/-- Whether a candidate, declared on the target of `r`, points back with the swapped pairs. -/
def isInverseOf (candidate r : Relation) (db : Database) : Bool :=
  candidate.id != r.id
    && (candidate.targetEntity? db).map (·.id) == some r.id.entity
    && candidate.localToForeign.sameMap r.foreignToLocal

/-- The first relation of the target that points back with the swapped pairs. -/
def inverse? (r : Relation) (db : Database) : Option Relation :=
  match r.targetEntity? db with
  | none => none
  | some target => target.relations.find? (·.isInverseOf r db)

/-- Whether there is an inverse. -/
def hasInverse (r : Relation) (db : Database) : Bool := (r.inverse? db).isSome

/-- The other relations of the owner. -/
def siblings (r : Relation) (db : Database) : List Relation :=
  match r.owner? db with
  | none => []
  | some owner => owner.relations.filter (·.id != r.id)

/-- Whether the owner keeps the local fields unique. -/
def isUniqueOnOwner (r : Relation) (db : Database) : Bool :=
  match r.owner? db with
  | none => false
  | some owner => owner.hasUniqueOver r.localFields

/-- One-to-one if the local fields are a key or unique, or if there is an inverse. -/
def multiplicity (r : Relation) (db : Database) : Multiplicity :=
  if r.isLocalKey db || r.isUniqueOnOwner db || r.hasInverse db then .oneToOne else .manyToOne

end Relation

/-- A many-to-many association: the junction's relation to here, and its other relations. -/
structure CrossRelation where
  incoming : Relation
  outgoing : List Relation
  deriving DecidableEq, Repr

namespace Entity

/-- The relations that point at this entity, in order of declaration. -/
def referrers (e : Entity) (db : Database) : List Relation :=
  db.relations.filter fun r => (r.targetEntity? db).map (·.id) == some e.id

/-- The associations through junctions that point at this entity. -/
def crossRelations (e : Entity) (db : Database) : List CrossRelation :=
  (e.referrers db).filterMap fun r =>
    match r.owner? db with
    | some junction => if junction.isCrossRef then some ⟨r, r.siblings db⟩ else none
    | none => none

-- ── Settings in effect ────────────────────────────────────────────────────────

/-- The id method, the database's one if the entity has none. -/
def idMethodIn (e : Entity) (db : Database) : IdMethod := e.idMethod.getD db.defaultIdMethod

/-- The quoting switch, the database's one if the entity has none. -/
def quotingIn (e : Entity) (db : Database) : Option Bool :=
  e.identifierQuoting.or db.identifierQuoting

/-- The heavy indexing switch, the database's one if the entity has none. -/
def heavyIndexingIn (e : Entity) (db : Database) : Bool := e.heavyIndexing.getD db.heavyIndexing

end Entity

end SchemaDdl
