import SchemaDdl.Schema.Database

/-!
# Resolving relations

What a relation means inside a database: its owner, its target, its name and the fields that its
pairs stand for.

* **`Relation.targetEntity?`**: the bound target if there is one, else a look-up by name.
* **`Relation.nameIn`**: the stored name, else one made from the relation's shape.
* **`Relation.localFieldsIn`**, **`Relation.foreignFieldsIn`**: the fields behind the names. A
  foreign path `relation.field` goes through a relation of the target: it stands for the field
  that this relation maps onto `field`.
* **`Relation.verify`**: the checks that finalizing makes, in their order.
-/

namespace SchemaDdl

namespace Relation

/-- The entity that owns the relation. -/
def owner? (r : Relation) (db : Database) : Option Entity := db.entity? r.id.entity

/-- The entity that the relation points at. -/
def targetEntity? (r : Relation) (db : Database) : Option Entity :=
  match r.bound with
  | some position => db.entity? (some position)
  | none => db.resolve? r.target

-- ── Name ──────────────────────────────────────────────────────────────────────

/-- What a derived name is made from: the target's table, if there is a target, the local and the
    foreign fields. -/
def signature (r : Relation) (db : Database) : String :=
  let target := (r.targetEntity? db).map (·.fullTable)
  Text.join ":" (target.toList ++ [Text.join "," r.localFields, Text.join "," r.foreignFields])

/-- The derived name. Without owner it does not start with a table. -/
def autoName (r : Relation) (db : Database) : String :=
  let hash := Digest.shortDigest (Text.lower (r.signature db))
  match r.owner? db with
  | some owner => Text.concat [owner.table, "_fk_", hash]
  | none => Text.concat ["fk_", hash]

/-- The name of the relation in a database. -/
def nameIn (r : Relation) (db : Database) : String := r.storedName?.getD (r.autoName db)

-- ── Failures ──────────────────────────────────────────────────────────────────

/-- A failure to build the relation, under the names by which a reader knows it. -/
def buildError (r : Relation) (db : Database) (step : BuildStep) : Error :=
  .ofNote <| .build {
    step
    relation := r.nameIn db
    entity := ((r.owner? db).map (·.name)).getD "(unattached)"
    target := ((r.targetEntity? db).map (·.name)).getD r.target }

/-- The target, or the failure that it is missing. -/
def targetIn (r : Relation) (db : Database) : Except Error Entity :=
  match r.targetEntity? db with
  | some target => .ok target
  | none => .error (r.buildError db .missingTarget)

/-- The owner, or the violation that there is none. -/
def ownerIn (r : Relation) (db : Database) : Except Error Entity :=
  match r.owner? db with
  | some owner => .ok owner
  | none => .error (Violation.unattachedRelation (r.nameIn db) r.target db.name).error

-- ── Fields ────────────────────────────────────────────────────────────────────

/-- The owner's field of a name. -/
def localFieldIn (r : Relation) (db : Database) (owner : Entity) (name : String) :
    Except Error Field :=
  match owner.field? name with
  | some f => .ok f
  | none => .error (r.buildError db (.localField name))

/-- All fields of the owner's side, up to the first that is not found. -/
def localFieldsIn (r : Relation) (db : Database) : Except Error (List Field) :=
  match r.ownerIn db with
  | .error e => .error e
  | .ok owner => r.localFields.mapM (r.localFieldIn db owner)

/-- The field of the target that a chained path stands for. -/
def chainedField? (target : Entity) (chained : Relation) (field : String) : Option Field :=
  (chained.localOf? field).bind target.field?

/-- The field of the target that a path stands for. -/
def foreignFieldIn (r : Relation) (db : Database) (target : Entity) (path : String) :
    Except Error Field :=
  match Text.halves? '.' path with
  | none =>
    match target.field? path with
    | some f => .ok f
    | none => .error (r.buildError db (.foreignField path))
  | some (relation, field) =>
    match target.relation? relation with
    | none => .error (r.buildError db (.foreignRelation relation path))
    | some chained =>
      match chainedField? target chained field with
      | some f => .ok f
      | none => .error (r.buildError db (.foreignField path))

/-- All fields of the target's side, up to the first that is not found. -/
def foreignFieldsIn (r : Relation) (db : Database) : Except Error (List Field) :=
  match r.targetIn db with
  | .error e => .error e
  | .ok target => r.foreignFields.mapM (r.foreignFieldIn db target)

/-- Fields of both sides, pair by pair. -/
def fieldPairsIn (r : Relation) (db : Database) : Except Error (List (Field × Field)) :=
  match r.localFieldsIn db with
  | .error e => .error e
  | .ok locals =>
    match r.foreignFieldsIn db with
    | .error e => .error e
    | .ok foreigns => .ok (locals.zip foreigns)

/-- Check that the relation has pairs, a target, and fields behind all names; gives the target's
    position. -/
def verify (r : Relation) (db : Database) : Except Error EntityId :=
  if r.references.isEmpty then .error (r.buildError db .noReferences)
  else
    match r.targetIn db with
    | .error e => .error e
    | .ok target =>
      match r.localFieldsIn db with
      | .error e => .error e
      | .ok _ =>
        match r.foreignFieldsIn db with
        | .error e => .error e
        | .ok _ => .ok target.id

end Relation

end SchemaDdl
