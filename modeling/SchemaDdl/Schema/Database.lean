import SchemaDdl.Schema.Entity

/-!
# Databases

A database owns its entities in order of registration and looks them up by position, by short name
and by qualified name.

* **`Database.addEntity`**: register an entity under a qualified name that is not taken.
* **`Database.updateEntity`**: every other change to an entity goes through here. The finalized flag
  is dropped before the entity is even looked up, so it is gone also when the change fails.

An operation gives back the database in every case, next to what came of it: what a failing
operation did before it failed stays done.
-/

namespace SchemaDdl

/-- A schema as a whole. -/
structure Database where
  name : String
  /-- Schema of entities that do not have one of their own. -/
  schema : Option String
  namespaceName : Option String
  defaultIdMethod : IdMethod
  identifierQuoting : Option Bool
  heavyIndexing : Bool
  vendor : VendorBlocks
  entities : List Entity
  finalized : Bool
  deriving DecidableEq, Repr

/-- The database after a step, and whether the step went through. -/
abbrev Outcome := Database × Except Failure Unit

/-- Go on with another step if a step went through. -/
def Outcome.andThen (o : Outcome) (next : Database → Outcome) : Outcome :=
  match o with
  | (db, .ok ()) => next db
  | (db, .error f) => (db, .error f)

namespace Database

/-- A database with nothing but a name. -/
def named (name : String) : Database :=
  { name, schema := none, namespaceName := none, defaultIdMethod := .native,
    identifierQuoting := none, heavyIndexing := false, vendor := .empty, entities := [],
    finalized := false }

-- ── Look-up ───────────────────────────────────────────────────────────────────

/-- The entity at a position. -/
def entity? (db : Database) (id : EntityId) : Option Entity := id.bind (db.entities[·]?)

/-- The positions of all entities. -/
def entityIds (db : Database) : List EntityId := (List.range db.entities.length).map some

/-- The first entity of a short name. -/
def byName? (db : Database) (name : String) : Option Entity := db.entities.find? (·.name == name)

/-- The first entity of a qualified name. -/
def byFullName? (db : Database) (name : String) : Option Entity :=
  db.entities.find? (·.fullName == name)

/-- The entity that a name stands for: a short name first, then a qualified one. -/
def resolve? (db : Database) (name : String) : Option Entity :=
  (db.byName? name).or (db.byFullName? name)

/-- All relations of all entities, in order of declaration. -/
def relations (db : Database) : List Relation := db.entities.flatMap (·.relations)

/-- The relation of an id, or which part of the id leads nowhere. -/
def relation (db : Database) (id : RelationId) : Except Missing Relation :=
  match db.entity? id.entity with
  | none => .error .entity
  | some e =>
    match id.index.bind (e.relations[·]?) with
    | none => .error .relation
    | some r => .ok r

-- ── Registration ──────────────────────────────────────────────────────────────

/-- Give relations their ids, from a place on. -/
def numberFrom (owner : EntityId) : Nat → List Relation → List Relation
  | _, [] => []
  | i, r :: rs => { r with id := ⟨owner, some i⟩ } :: numberFrom owner (i + 1) rs

/-- An entity at its position, with its relations numbered after it. -/
def placed (e : Entity) (position : Nat) : Entity :=
  { e with id := some position, relations := numberFrom (some position) 0 e.relations }

/-- An entity with the schema that it inherits. -/
def inherited (db : Database) (e : Entity) : Entity :=
  { e with schema := e.schema.or db.schema }

/-- Register an entity and give it and its relations their ids. -/
def addEntity (db : Database) (e : Entity) : Except Violation (Database × EntityId) :=
  if e.name.isEmpty then .error (.entityWithoutName db.name)
  else
    let e := db.inherited e
    if (db.byFullName? e.fullName).isSome then .error (.repeatedEntity db.name e.fullName)
    else
      let position := db.entities.length
      .ok ({ db with entities := db.entities ++ [placed e position], finalized := false },
        some position)

-- ── Change ────────────────────────────────────────────────────────────────────

/-- The database without its finalized flag. -/
def unfinalized (db : Database) : Database := { db with finalized := false }

/-- Change the entity at a position, whatever its relations and fields. -/
def modifyEntity (db : Database) (position : Nat) (change : Entity → Entity) : Database :=
  { db with entities := db.entities.modify position change }

/-- Change the entity of an id by a step that may refuse. -/
def updateEntity (db : Database) (id : EntityId) (change : Entity → Except Violation Entity) :
    Outcome :=
  let db := db.unfinalized
  match id with
  | none => (db, .error (.missing .entity))
  | some position =>
    match db.entities[position]? with
    | none => (db, .error (.missing .entity))
    | some e =>
      match change e with
      | .error v => (db, .error (.error v.error))
      | .ok e => ({ db with entities := db.entities.set position e }, .ok ())

end Database

end SchemaDdl
