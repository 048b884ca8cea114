import SchemaDdl.Digest
import SchemaDdl.Schema.Vendor
import SchemaDdl.Text.Pieces

/-!
# Indices

An index lists fields of one entity, possibly with prefix lengths. Its name is given, or made from
the table and a digest of the fields.

Two tests compare an index with a list of names as sets, by length and membership: `Index.covers`
the whole index, `Index.hasPrefix` its leading fields.
-/

namespace SchemaDdl

/-- A field in an index, with a prefix length for platforms that know such. -/
structure IndexField where
  name : String
  size : Option Nat
  deriving DecidableEq, Repr

/-- An index of an entity. -/
structure Index where
  name : Option String
  fields : List IndexField
  unique : Bool
  vendor : VendorBlocks
  deriving DecidableEq, Repr

namespace Index

/-- An unnamed index over whole fields. -/
def ofNames (unique : Bool) (names : List String) : Index :=
  { name := none, fields := names.map (⟨·, none⟩), unique, vendor := .empty }

/-- The names of the fields in index order. -/
def fieldNames (index : Index) : List String := index.fields.map (·.name)

/-- The name made from the table and the fields. The kind of the index is part of it. -/
def autoName (index : Index) (table : String) : String :=
  let kind := if index.unique then "_u_" else "_i_"
  table ++ kind ++ Digest.shortDigest (Text.lower (Text.join "," index.fieldNames))

/-- The name of the index on a table. -/
def nameOn (index : Index) (table : String) : String :=
  index.name.getD (index.autoName table)

/-- Whether the index has exactly the given fields, in any order. -/
def covers (index : Index) (names : List String) : Bool :=
  index.fields.length == names.length && index.fieldNames.all names.contains

/-- Whether the first fields of the index are exactly the given ones, in any order. -/
def hasPrefix (index : Index) (names : List String) : Bool :=
  !names.isEmpty && names.length ≤ index.fields.length
    && (index.fieldNames.take names.length).all names.contains

end Index

end SchemaDdl
