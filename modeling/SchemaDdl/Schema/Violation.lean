import SchemaDdl.Error

/-!
# What can be wrong with a schema

Every rule that the parts of a schema must keep has a violation here, and every violation its one
wording.
-/

namespace SchemaDdl

/-- A broken rule of the schema, with the names of what breaks it. -/
inductive Violation where
  | fieldWithoutName (entity : String)
  | defaultOnAutoIncrement (entity field : String)
  | defaultOutsideValues (value entity field : String)
  | repeatedField (entity field : String)
  | indexWithoutFields (entity : String)
  | indexOverUnknownField (entity field : String)
  | entityWithoutName (database : String)
  | repeatedEntity (database fullName : String)
  | unattachedRelation (relation target database : String)
  deriving DecidableEq, Repr

namespace Violation

/-- The wording of a violation. -/
def message : Violation → String
  | fieldWithoutName entity =>
    Text.concat ["entity `", entity, "` declares a field without a name"]
  | defaultOnAutoIncrement entity field =>
    Text.concat ["field `", entity, ".", field, "` is auto-incremented and cannot have a default"]
  | defaultOutsideValues value entity field =>
    Text.concat ["default `", value, "` of field `", entity, ".", field,
      "` is not in its value set"]
  | repeatedField entity field =>
    Text.concat ["entity `", entity, "` declares field `", field, "` more than once"]
  | indexWithoutFields entity => Text.concat ["index on entity `", entity, "` has no fields"]
  | indexOverUnknownField entity field =>
    Text.concat ["index on entity `", entity, "` references unknown field `", field, "`"]
  | entityWithoutName database =>
    Text.concat ["database `", database, "` contains an entity without a name"]
  | repeatedEntity database fullName =>
    Text.concat ["database `", database, "` declares entity `", fullName, "` more than once"]
  | unattachedRelation relation target database =>
    Text.concat ["relation `", relation, "` to `", target,
      "` is not attached to an entity of database `", database, "`"]

/-- A violation as an error. -/
def error (v : Violation) : Error := .invalidSchema v.message

end Violation

end SchemaDdl
