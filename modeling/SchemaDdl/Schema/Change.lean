import SchemaDdl.Schema.Entity

/-!
# Changes to an entity

All that can be done to an entity from outside. Attributes can be set to anything but the position;
fields and indices are added under the entity's rules; relations are added as they are. An entity
built from scratch is a name followed by such changes.
-/

namespace SchemaDdl

/-- An attribute of an entity with a new value. -/
inductive EntityAttribute where
  | name (s : String)
  | tableName (s : Option String)
  | schema (s : Option String)
  | namespaceName (s : Option String)
  | idMethod (m : Option IdMethod)
  | skipSql (b : Bool)
  | readOnly (b : Bool)
  | isAbstract (b : Bool)
  | isCrossRef (b : Bool)
  | description (s : Option String)
  | identifierQuoting (b : Option Bool)
  | heavyIndexing (b : Option Bool)
  | vendor (blocks : VendorBlocks)
  deriving DecidableEq, Repr

/-- A change to an entity. Attributes can be set several at a time. -/
inductive EntityChange where
  | assign (attributes : List EntityAttribute)
  | addField (f : Field)
  | addIndex (index : Index)
  | addRelation (r : Relation)
  deriving DecidableEq, Repr

namespace Entity

/-- Set one attribute. -/
def assign (e : Entity) : EntityAttribute → Entity
  | .name name => { e with name }
  | .tableName tableName => { e with tableName }
  | .schema schema => { e with schema }
  | .namespaceName namespaceName => { e with namespaceName }
  | .idMethod idMethod => { e with idMethod }
  | .skipSql skipSql => { e with skipSql }
  | .readOnly readOnly => { e with readOnly }
  | .isAbstract isAbstract => { e with isAbstract }
  | .isCrossRef isCrossRef => { e with isCrossRef }
  | .description description => { e with description }
  | .identifierQuoting identifierQuoting => { e with identifierQuoting }
  | .heavyIndexing heavyIndexing => { e with heavyIndexing }
  | .vendor vendor => { e with vendor }

/-- Make a change, unless it breaks a rule. -/
def change (e : Entity) : EntityChange → Except Violation Entity
  | .assign attributes => .ok (attributes.foldl assign e)
  | .addField f => e.addField f
  | .addIndex index => e.addIndex index
  | .addRelation r => .ok (e.addRelation r)

end Entity

/-- What an entity is built from: a name and the changes that follow. -/
structure EntityDraft where
  name : String
  changes : List EntityChange
  deriving DecidableEq, Repr

/-- The entity of a draft, or the first rule that one of its changes breaks. -/
def EntityDraft.build (d : EntityDraft) : Except Violation Entity :=
  d.changes.foldlM Entity.change (.named d.name)

end SchemaDdl
