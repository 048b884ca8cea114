import SchemaDdl.Schema.Field
import SchemaDdl.Schema.Index
import SchemaDdl.Schema.Relation
import SchemaDdl.Text.Words

/-!
# Entities

An entity is a table of the schema: fields, relations that start from it, and indices. Fields have
distinct names and indices are over fields of the entity, because `Entity.addField` and
`Entity.addIndex` refuse anything else. A relation is added as it is; whether it leads anywhere is a
question for the database.
-/

namespace SchemaDdl

/-- How primary keys get their values. -/
inductive IdMethod where
  | native
  | autoIncrement
  | sequence
  | none
  deriving DecidableEq, Repr

namespace IdMethod

/-- The name of a method. -/
def name : IdMethod → String
  | native => "native"
  | autoIncrement => "autoincrement"
  | sequence => "sequence"
  | none => "none"

/-- All methods. -/
def all : List IdMethod := [native, autoIncrement, sequence, none]

/-- The method with a given name, in whatever case. -/
def ofName? (s : String) : Option IdMethod :=
  all.find? fun m => m.name == Text.lower s

/-- Whether values are made by the database. -/
def isGenerated (m : IdMethod) : Bool := m != none

end IdMethod

/-- A table of the schema. -/
structure Entity where
  /-- Position in the database, once registered. -/
  id : EntityId
  name : String
  /-- Table name that replaces the one made from the entity's name. -/
  tableName : Option String
  schema : Option String
  namespaceName : Option String
  idMethod : Option IdMethod
  skipSql : Bool
  readOnly : Bool
  isAbstract : Bool
  /-- Marks the junction of a many-to-many association. -/
  isCrossRef : Bool
  description : Option String
  identifierQuoting : Option Bool
  heavyIndexing : Option Bool
  fields : List Field
  relations : List Relation
  indices : List Index
  vendor : VendorBlocks
  deriving DecidableEq, Repr

namespace Entity

/-- An entity with nothing but a name. -/
def named (name : String) : Entity :=
  { id := none, name, tableName := none, schema := none, namespaceName := none, idMethod := none,
    skipSql := false, readOnly := false, isAbstract := false, isCrossRef := false,
    description := none, identifierQuoting := none, heavyIndexing := none, fields := [],
    relations := [], indices := [], vendor := .empty }

-- ── Names ─────────────────────────────────────────────────────────────────────

/-- The name of the table. -/
def table (e : Entity) : String := e.tableName.getD (Text.snake e.name)

/-- A name behind a schema and a dot, or alone without schema. -/
def qualified (schema : Option String) (name : String) : String :=
  match schema with
  | some schema => Text.concat [schema, ".", name]
  | none => name

/-- The entity's name with its schema. -/
def fullName (e : Entity) : String := qualified e.schema e.name

/-- The table's name with its schema. -/
def fullTable (e : Entity) : String := qualified e.schema e.table

-- ── Fields ────────────────────────────────────────────────────────────────────

/-- The field of a name. -/
def field? (e : Entity) (name : String) : Option Field := e.fields.find? (·.name == name)

/-- Whether there is a field of a name. -/
def hasField (e : Entity) (name : String) : Bool := (e.field? name).isSome

/-- Add a field that keeps its own rules and has a new name. -/
def addField (e : Entity) (f : Field) : Except Violation Entity :=
  match f.verify e.name with
  | .error v => .error v
  | .ok () =>
    if e.hasField f.name then .error (.repeatedField e.name f.name)
    else .ok { e with fields := e.fields ++ [f] }

/-- Put another field in the place of the first one of a name, without any check. -/
def replaceField (e : Entity) (name : String) (f : Field) : Entity :=
  match e.fields.findIdx? (·.name == name) with
  | some i => { e with fields := e.fields.set i f }
  | none => e

/-- The fields of the primary key. -/
def primaryKey (e : Entity) : List Field := e.fields.filter (·.primaryKey)

/-- The names of the primary key's fields. -/
def primaryKeyNames (e : Entity) : List String := e.primaryKey.map (·.name)

/-- Whether there is a primary key. -/
def hasPrimaryKey (e : Entity) : Bool := !e.primaryKey.isEmpty

/-- Whether the primary key has several fields. -/
def hasCompositeKey (e : Entity) : Bool := 1 < e.primaryKey.length

/-- The first auto-incremented field of the primary key. -/
def autoIncrementKey? (e : Entity) : Option Field := e.primaryKey.find? (·.autoIncrement)

-- ── Relations ─────────────────────────────────────────────────────────────────

/-- The id that the next relation gets. -/
def nextRelationId (e : Entity) : RelationId := ⟨e.id, some e.relations.length⟩

/-- Add a relation, which gets its id from here. -/
def addRelation (e : Entity) (r : Relation) : Entity :=
  { e with relations := e.relations ++ [{ r with id := e.nextRelationId }] }

/-- The relation of a name: the first with that stored name, else the first with that accessor. -/
def relation? (e : Entity) (name : String) : Option Relation :=
  (e.relations.find? (·.storedName? == some name)).or
    (e.relations.find? (·.accessor? == some name))

-- ── Indices ───────────────────────────────────────────────────────────────────

/-- Add an index over fields of the entity. -/
def addIndex (e : Entity) (index : Index) : Except Violation Entity :=
  if index.fields.isEmpty then .error (.indexWithoutFields e.name)
  else
    match index.fieldNames.find? (fun name => !e.hasField name) with
    | some missing => .error (.indexOverUnknownField e.name missing)
    | none => .ok { e with indices := e.indices ++ [index] }

/-- The unique indices. -/
def uniqueIndices (e : Entity) : List Index := e.indices.filter (·.unique)

/-- Whether the primary key has exactly the given fields, in any order. -/
def keyCovers (e : Entity) (names : List String) : Bool :=
  !e.primaryKeyNames.isEmpty && e.primaryKeyNames.length == names.length
    && e.primaryKeyNames.all names.contains

/-- Whether the primary key or a unique index has exactly the given fields. -/
def hasUniqueOver (e : Entity) (names : List String) : Bool :=
  e.keyCovers names || e.uniqueIndices.any (·.covers names)

/-- Whether the first fields of the primary key are exactly the given ones, in any order. -/
def keyHasPrefix (e : Entity) (names : List String) : Bool :=
  !names.isEmpty && names.length ≤ e.primaryKeyNames.length
    && (e.primaryKeyNames.take names.length).all names.contains

/-- Whether the primary key or some index starts with the given fields. -/
def isIndexedByPrefix (e : Entity) (names : List String) : Bool :=
  e.keyHasPrefix names || e.indices.any (·.hasPrefix names)

end Entity

end SchemaDdl
