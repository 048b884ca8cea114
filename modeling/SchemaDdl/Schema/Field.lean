import SchemaDdl.Schema.ColumnType
import SchemaDdl.Schema.Vendor
import SchemaDdl.Schema.Violation

/-!
# Fields

A field is a column of an entity. Its own rules, checked by `Field.verify`, do not look at other
fields: it has a name, it is not both auto-incremented and defaulted, and a literal default of an
enumeration is one of the enumeration's values.
-/

namespace SchemaDdl

/-- The default of a field: a literal value, or an expression that is written as it is. -/
inductive FieldDefault where
  | value (s : String)
  | expression (s : String)
  deriving DecidableEq, Repr

namespace FieldDefault

/-- The text of a default. -/
def text : FieldDefault → String
  | value s => s
  | expression s => s

/-- Whether a default is an expression. -/
def isExpression : FieldDefault → Bool
  | value _ => false
  | expression _ => true

end FieldDefault

/-- A column of an entity. -/
structure Field where
  name : String
  type : ColumnType
  /-- A concrete type that stands in place of the platform's. -/
  sqlType : Option String
  size : Option Nat
  scale : Option Nat
  primaryKey : Bool
  required : Bool
  autoIncrement : Bool
  default : Option FieldDefault
  description : Option String
  /-- Values of an enumeration, in order. -/
  valueSet : List String
  lazyLoad : Bool
  primaryString : Bool
  vendor : VendorBlocks
  deriving DecidableEq, Repr

namespace Field

/-- A field with nothing but a name and a type. -/
def plain (name : String) (type : ColumnType) : Field :=
  { name, type, sqlType := none, size := none, scale := none, primaryKey := false,
    required := false, autoIncrement := false, default := none, description := none,
    valueSet := [], lazyLoad := false, primaryString := false, vendor := .empty }

/-- Primary key columns never hold nulls, and neither do required ones. -/
def isNotNull (f : Field) : Bool := f.required || f.primaryKey

/-- Whether a field has a default of either kind. -/
def hasDefault (f : Field) : Bool := f.default.isSome

/-- The size in parentheses, with the scale if there is one; empty without size. -/
def sizeText (size scale : Option Nat) : String :=
  match size, scale with
  | some size, some scale => Text.concat ["(", toString size, ",", toString scale, ")"]
  | some size, none => Text.concat ["(", toString size, ")"]
  | none, _ => ""

/-- The size that the field itself declares. -/
def sizeDefinition (f : Field) : String := sizeText f.size f.scale

/-- Where a value stands in the value set. -/
def enumPosition? (f : Field) (value : String) : Option Nat := f.valueSet.idxOf? value

/-- The first of the field's own rules that is broken. The entity's name serves the wording. -/
def verify (f : Field) (entity : String) : Except Violation Unit :=
  if f.name.isEmpty then .error (.fieldWithoutName entity)
  else if f.autoIncrement && f.hasDefault then .error (.defaultOnAutoIncrement entity f.name)
  else
    match f.type, f.default with
    | .enum, some (.value v) =>
      if (f.enumPosition? v).isNone then .error (.defaultOutsideValues v entity f.name) else .ok ()
    | _, _ => .ok ()

end Field

end SchemaDdl
