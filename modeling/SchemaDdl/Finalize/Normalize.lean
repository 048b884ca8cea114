import SchemaDdl.Platform.Basic
import SchemaDdl.Schema.Graph

/-!
# Normalization

What a platform adds to an entity, or changes in it, before statements are made. Indices are planned
against the entity as it is, and only those that are missing are added.

* **`Database.fixIdMethod`**: without an auto-incremented key there are no native ids.
* **`Database.ensureInverseIndices`**: the local fields of a relation with an inverse are unique.
* **`Database.ensureRelationIndices`**: the local fields of a relation lead some index.
* **`Database.ensureHeavyIndices`**: every key field after the first leads some index.
* **`Platform.normalizeEntity`**: what a platform does with one entity; SQLite first refuses
  entities that it cannot express.

Every step gives back the database together with what came of it.
-/

namespace SchemaDdl

-- ── Planning ──────────────────────────────────────────────────────────────────

/-- Whether two lists of names have the same length and the second has all names of the first. -/
def sameNames (names others : List String) : Bool :=
  names.length == others.length && names.all others.contains

/-- Add names to a plan, unless they are empty, satisfied already, or planned. -/
def planStep (satisfied : List String → Bool) (planned : List (List String))
    (names : List String) : List (List String) :=
  if names.isEmpty || satisfied names || planned.any (sameNames · names) then planned
  else planned ++ [names]

/-- The lists of names, among those wanted, for which an index is to be added. -/
def planIndices (satisfied : List String → Bool) (wanted : List (List String)) :
    List (List String) :=
  wanted.foldl (planStep satisfied) []

namespace Database

/-- Add an index for every planned list of names, up to the first that is refused. -/
def addIndices (id : EntityId) (unique : Bool) : List (List String) → Database → Outcome
  | [], db => (db, .ok ())
  | names :: rest, db =>
    (db.updateEntity id (·.addIndex (.ofNames unique names))).andThen (addIndices id unique rest)

/-- Do something with the entity of an id, which must be there. -/
def withEntity (db : Database) (id : EntityId) (act : Entity → Outcome) : Outcome :=
  match db.entity? id with
  | none => (db, .error (.missing .entity))
  | some e => act e

-- ── Steps ─────────────────────────────────────────────────────────────────────

/-- Give up native ids on an entity that has no auto-incremented key field. -/
def fixIdMethod (id : EntityId) (db : Database) : Outcome :=
  db.withEntity id fun e =>
    if e.idMethodIn db = .native ∧ e.autoIncrementKey?.isNone then
      db.updateEntity id fun e => .ok { e with idMethod := some .none }
    else (db, .ok ())

/-- Lists of local fields that must be unique because of an inverse. -/
def inverseNames (db : Database) (e : Entity) : List (List String) :=
  (e.relations.filter fun r => !r.isLocalKey db && r.hasInverse db).map (·.localFields)

/-- Make the local fields of relations with an inverse unique. -/
def ensureInverseIndices (id : EntityId) (db : Database) : Outcome :=
  db.withEntity id fun e =>
    db.addIndices id true (planIndices e.hasUniqueOver (db.inverseNames e))

/-- Lists of local fields of the relations that statements are made for. -/
def relationNames (e : Entity) : List (List String) :=
  (e.relations.filter (!·.skipSql)).map (·.localFields)

/-- Let the local fields of every relation lead some index. -/
def ensureRelationIndices (id : EntityId) (db : Database) : Outcome :=
  db.withEntity id fun e =>
    db.addIndices id false (planIndices e.isIndexedByPrefix (relationNames e))

/-- Key fields after the first, each on its own. -/
def heavyNames (e : Entity) : List (List String) := (e.primaryKeyNames.drop 1).map ([·])

/-- With heavy indexing, let every key field after the first lead some index. -/
def ensureHeavyIndices (id : EntityId) (db : Database) : Outcome :=
  db.withEntity id fun e =>
    if e.heavyIndexingIn db then
      db.addIndices id false (planIndices e.isIndexedByPrefix (heavyNames e))
    else (db, .ok ())

/-- What all platforms do with an entity. -/
def normalizeEntity (id : EntityId) (db : Database) : Outcome :=
  ((db.fixIdMethod id).andThen (ensureInverseIndices id)).andThen (ensureHeavyIndices id)

end Database

-- ── Platforms ─────────────────────────────────────────────────────────────────

/-- A schema that a dialect cannot express. -/
inductive Refusal where
  | autoIncrementInCompositeKey (entity : String)
  | autoIncrementOutsideKey (entity field : String)
  | unknownPlatform (name : String)
  deriving DecidableEq, Repr

namespace Refusal

/-- The wording of a refusal. -/
def message : Refusal → String
  | autoIncrementInCompositeKey entity =>
    Text.concat ["auto-increment in the composite primary key of `", entity, "` on sqlite"]
  | autoIncrementOutsideKey entity field =>
    Text.concat ["auto-increment on non-key field `", entity, ".", field, "` on sqlite"]
  | unknownPlatform name => Text.concat ["platform `", name, "`"]

/-- A refusal as an error. -/
def error (r : Refusal) : Error := .unsupportedFeature r.message

end Refusal

/-- What SQLite refuses in an entity: it auto-increments only a key of one column. -/
def Entity.sqliteRefusal? (e : Entity) : Option Refusal :=
  if e.hasCompositeKey && e.autoIncrementKey?.isSome then
    some (.autoIncrementInCompositeKey e.name)
  else
    (e.fields.find? fun f => f.autoIncrement && !f.primaryKey).map fun f =>
      .autoIncrementOutsideKey e.name f.name

namespace Platform

/-- What a platform does with an entity. -/
def normalizeEntity (p : Platform) (id : EntityId) (db : Database) : Outcome :=
  match p.dialect with
  | .generic => db.normalizeEntity id
  | .postgresql => db.normalizeEntity id
  | .mysql _ => (db.normalizeEntity id).andThen (Database.ensureRelationIndices id)
  | .sqlite =>
    db.withEntity id fun e =>
      match e.sqliteRefusal? with
      | some r => (db, .error (.error r.error))
      | none => db.normalizeEntity id

/-- What a platform does with a list of entities, up to the first that does not go through. -/
def normalizeEntities (p : Platform) : List EntityId → Database → Outcome
  | [], db => (db, .ok ())
  | id :: ids, db => (p.normalizeEntity id db).andThen (p.normalizeEntities ids)

/-- What a platform does with all entities, in order of registration. -/
def normalize (p : Platform) (db : Database) : Outcome := p.normalizeEntities db.entityIds db

end Platform

end SchemaDdl
