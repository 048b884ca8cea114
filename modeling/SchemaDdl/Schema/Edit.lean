import SchemaDdl.Schema.Relation

/-!
# Edits of a relation

What can be done to the name, the pairs and the target of a relation by itself, whether it is new, a
copy, or stands in an entity. Edits are made one after the other, and none of them fails.
-/

namespace SchemaDdl

/-- An edit of a relation. -/
inductive RelationEdit where
  | setName (name : String)
  | addReference (pair : Reference)
  | clearReferences
  | setTarget (target : String)
  deriving DecidableEq, Repr

namespace Relation

/-- Make an edit. -/
def edit (r : Relation) : RelationEdit → Relation
  | .setName name => r.setName name
  | .addReference pair => r.addReference pair
  | .clearReferences => r.clearReferences
  | .setTarget target => r.setTarget target

/-- Make edits one after the other. -/
def editAll (r : Relation) (edits : List RelationEdit) : Relation := edits.foldl edit r

end Relation

end SchemaDdl
