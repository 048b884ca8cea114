import SchemaDdl.Ddl.Statement
import SchemaDdl.Settings.Basic

/-!
# The statements of a database

Tables come in order of registration, each with its indices behind it. Tables to be dropped come
first, in reverse. A foreign key stands in its table, or at the end of the script, as the platform
prefers. Entities marked as skipped are left out, and so are relations that are marked, or point at
an entity that is.

* **`Database.foreignKeysOf`**: the foreign keys of an entity, in order of its relations.
* **`Database.statements`**: the whole list, or the first relation that cannot be resolved.
-/

namespace SchemaDdl

namespace Database

/-- The entities that statements are made for. -/
def emitted (db : Database) : List Entity := db.entities.filter (!·.skipSql)

/-- Whether a foreign key is made for a relation; an error if it should be and has no target. -/
def emitsForeignKey (db : Database) (r : Relation) : Except Error Bool :=
  if r.skipSql then .ok false else (r.targetIn db).map (!·.skipSql)

/-- The foreign keys of a list of relations. -/
def foreignKeysOf (db : Database) : List Relation → Except Error (List ForeignKey)
  | [] => .ok []
  | r :: rs =>
    match db.emitsForeignKey r with
    | .error e => .error e
    | .ok false => db.foreignKeysOf rs
    | .ok true =>
      match ForeignKey.ofRelation db r with
      | .error e => .error e
      | .ok key =>
        match db.foreignKeysOf rs with
        | .error e => .error e
        | .ok keys => .ok (key :: keys)

/-- Entities paired with their foreign keys. -/
def tablesOf (db : Database) : List Entity → Except Error (List (Entity × List ForeignKey))
  | [] => .ok []
  | e :: es =>
    match db.foreignKeysOf e.relations with
    | .error err => .error err
    | .ok keys =>
      match db.tablesOf es with
      | .error err => .error err
      | .ok rest => .ok ((e, keys) :: rest)

/-- Statements that drop tables. -/
def dropStatements (p : Platform) (entities : List Entity) : List Statement :=
  entities.reverse.map fun e => .dropTable e.id true p.profile.hasDropCascade

/-- Statements that create one table and its indices. -/
def tableStatements (p : Platform) (e : Entity) (keys : List ForeignKey) : List Statement :=
  .createTable e.id (if p.profile.inlinesForeignKeys then keys else [])
    :: (List.range e.indices.length).map (.createIndex e.id)

/-- Statements that add foreign keys to finished tables. -/
def deferredStatements (p : Platform) (keys : List ForeignKey) : List Statement :=
  if p.profile.inlinesForeignKeys then [] else keys.map .addForeignKey

/-- The statements of a database. -/
def statements (db : Database) (p : Platform) (s : Settings) : Except Error (List Statement) :=
  match db.tablesOf db.emitted with
  | .error e => .error e
  | .ok tables =>
    let drops := if s.dropTables then dropStatements p db.emitted else []
    .ok (drops ++ tables.flatMap (fun t => tableStatements p t.1 t.2)
      ++ deferredStatements p (tables.flatMap (·.2)))

end Database

end SchemaDdl
