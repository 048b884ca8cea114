import SchemaDdl.Schema.ColumnType

/-!
# Dialects and their types

* **`Dialect`**: the four dialects of SQL. The engine of MySQL tables is part of the dialect.
* **`Dialect.domain`**: the concrete type of each column type, possibly with a size of its own.
  Where a dialect has nothing special, the ANSI mapping counts: every type under its own name,
  except the emulated ones.
* **`Dialect.takesSize`**: whether a concrete type can be followed by a size.
-/

namespace SchemaDdl

/-- A dialect of SQL. -/
inductive Dialect where
  | generic
  | mysql (engine : String)
  | postgresql
  | sqlite
  deriving DecidableEq, Repr

/-- A concrete type, with the size and scale of columns that declare none. -/
structure Domain where
  type : ColumnType
  sqlType : String
  size : Option Nat
  scale : Option Nat
  deriving DecidableEq, Repr

namespace Domain

/-- A concrete type without size. -/
def of (type : ColumnType) (sqlType : String) : Domain := ⟨type, sqlType, none, none⟩

/-- A concrete type with a size. -/
def sized (type : ColumnType) (sqlType : String) (size : Nat) : Domain :=
  ⟨type, sqlType, some size, none⟩

/-- The ANSI mapping. -/
def ansi (type : ColumnType) : Domain :=
  match type with
  | .booleanInt => of type "INTEGER"
  | .booleanChar => sized type "CHAR" 1
  | .enum => of type "TINYINT"
  | .object => of type "LONGVARBINARY"
  | .array => of type "LONGVARCHAR"
  | _ => of type type.name

/-- The mapping of MySQL. -/
def mysql (type : ColumnType) : Domain :=
  match type with
  | .boolean => sized type "TINYINT" 1
  | .numeric => of type "DECIMAL"
  | .longVarchar | .array => of type "TEXT"
  | .binary => of type "BLOB"
  | .varbinary | .object => of type "MEDIUMBLOB"
  | .longVarbinary | .blob => of type "LONGBLOB"
  | .clob => of type "LONGTEXT"
  | .timestamp => of type "DATETIME"
  | .real => of type "DOUBLE"
  | _ => ansi type

/-- The mapping of PostgreSQL. -/
def postgresql (type : ColumnType) : Domain :=
  match type with
  | .tinyInt | .smallInt | .enum => of type "INT2"
  | .bigInt => of type "INT8"
  | .float | .double => of type "DOUBLE PRECISION"
  | .longVarchar | .clob | .array => of type "TEXT"
  | .binary | .varbinary | .longVarbinary | .blob | .object => of type "BYTEA"
  | _ => ansi type

/-- The mapping of SQLite. -/
def sqlite (type : ColumnType) : Domain :=
  match type with
  | .numeric => of type "DECIMAL"
  | .longVarchar | .object | .array => of type "MEDIUMTEXT"
  | .date => of type "DATETIME"
  | .binary => of type "BLOB"
  | .varbinary => of type "MEDIUMBLOB"
  | .longVarbinary | .blob => of type "LONGBLOB"
  | .clob => of type "LONGTEXT"
  | _ => ansi type

end Domain

namespace Dialect

/-- The concrete type of a column type. -/
def domain : Dialect → ColumnType → Domain
  | generic => Domain.ansi
  | mysql _ => Domain.mysql
  | postgresql => Domain.postgresql
  | sqlite => Domain.sqlite

/-- Concrete types that are never followed by a size, in upper case. -/
def sizelessTypes : Dialect → List String
  | generic => []
  | mysql _ =>
    ["TEXT", "MEDIUMTEXT", "LONGTEXT", "BLOB", "MEDIUMBLOB", "LONGBLOB", "DATE", "DATETIME", "TIME"]
  | postgresql => ["BYTEA", "TEXT", "DOUBLE PRECISION", "INT2", "INT8", "INTEGER", "BOOLEAN"]
  | sqlite => ["MEDIUMTEXT", "LONGTEXT", "BLOB", "MEDIUMBLOB", "LONGBLOB"]

/-- Whether a concrete type, in whatever case, can be followed by a size. -/
def takesSize (d : Dialect) (sqlType : String) : Bool :=
  !d.sizelessTypes.contains (Text.upper sqlType)

/-- Whether a concrete type can be followed by a scale. No dialect has one that cannot. -/
def takesScale (_ : Dialect) (_sqlType : String) : Bool := true

/-- The concrete type that replaces the declared one on auto-incremented columns. -/
def autoIncrementType? : Dialect → ColumnType → Option String
  | postgresql, .bigInt => some "BIGSERIAL"
  | postgresql, _ => some "SERIAL"
  | sqlite, _ => some "INTEGER"
  | _, _ => none

end Dialect

end SchemaDdl
