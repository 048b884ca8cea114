import SchemaDdl.Schema.Resolution

/-!
# Statements

Statements refer to tables by the position of their entity, and to indices by their place in it. A
foreign key holds the columns that its relation stands for, so it can be written without another
look at the relation.
-/

namespace SchemaDdl

/-- A foreign key with all names resolved. -/
structure ForeignKey where
  name : String
  table : EntityId
  columns : List String
  references : EntityId
  referencedColumns : List String
  onUpdate : ReferentialAction
  onDelete : ReferentialAction
  deriving DecidableEq, Repr

/-- The foreign key of a relation. -/
def ForeignKey.ofRelation (db : Database) (r : Relation) : Except Error ForeignKey :=
  match r.targetIn db with
  | .error e => .error e
  | .ok target =>
    match r.fieldPairsIn db with
    | .error e => .error e
    | .ok pairs =>
      .ok {
        name := r.nameIn db
        table := r.id.entity
        columns := pairs.map (·.1.name)
        references := target.id
        referencedColumns := pairs.map (·.2.name)
        onUpdate := r.onUpdate
        onDelete := r.onDelete }

/-- A statement of a script. -/
inductive Statement where
  | createTable (table : EntityId) (foreignKeys : List ForeignKey)
  | createIndex (table : EntityId) (position : Nat)
  | dropTable (table : EntityId) (ifExists cascade : Bool)
  | addForeignKey (foreignKey : ForeignKey)
  deriving DecidableEq, Repr

end SchemaDdl
