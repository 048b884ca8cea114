import SchemaDdl.Text.Case

/-!
# Column types

The closed vocabulary of types that a field can have. A platform maps each of them onto a concrete
type of its own; see `Dialect.domain`.

The classes overlap: dates and times count as text here, because their literals are written in
quotes.
-/

namespace SchemaDdl

/-- An abstract column type. -/
inductive ColumnType where
  | bit
  | tinyInt
  | smallInt
  | integer
  | bigInt
  | float
  | real
  | double
  | numeric
  | decimal
  | char
  | varchar
  | longVarchar
  | clob
  | date
  | time
  | timestamp
  | binary
  | varbinary
  | longVarbinary
  | blob
  | boolean
  | booleanInt
  | booleanChar
  | enum
  | object
  | array
  deriving DecidableEq, Repr

namespace ColumnType

/-- All column types in their order of declaration. -/
def all : List ColumnType := [
  bit, tinyInt, smallInt, integer, bigInt, float, real, double, numeric, decimal, char, varchar,
  longVarchar, clob, date, time, timestamp, binary, varbinary, longVarbinary, blob, boolean,
  booleanInt, booleanChar, enum, object, array]

/-- The name of a type in a document. -/
def name : ColumnType → String
  | bit => "BIT"
  | tinyInt => "TINYINT"
  | smallInt => "SMALLINT"
  | integer => "INTEGER"
  | bigInt => "BIGINT"
  | float => "FLOAT"
  | real => "REAL"
  | double => "DOUBLE"
  | numeric => "NUMERIC"
  | decimal => "DECIMAL"
  | char => "CHAR"
  | varchar => "VARCHAR"
  | longVarchar => "LONGVARCHAR"
  | clob => "CLOB"
  | date => "DATE"
  | time => "TIME"
  | timestamp => "TIMESTAMP"
  | binary => "BINARY"
  | varbinary => "VARBINARY"
  | longVarbinary => "LONGVARBINARY"
  | blob => "BLOB"
  | boolean => "BOOLEAN"
  | booleanInt => "BOOLEANINT"
  | booleanChar => "BOOLEANCHAR"
  | enum => "ENUM"
  | object => "OBJECT"
  | array => "ARRAY"

/-- The type with a given name, in whatever ASCII case. -/
def ofName? (s : String) : Option ColumnType :=
  all.find? fun ty => Text.sameIgnoringAsciiCase ty.name s

/-- Where a type stands among all types. -/
def position (ty : ColumnType) : Nat := all.idxOf ty

/-- Types whose literals are written in quotes. -/
def isText : ColumnType → Bool
  | char | varchar | longVarchar | clob | date | time | timestamp => true
  | _ => false

/-- Types of whole numbers. -/
def isInteger : ColumnType → Bool
  | tinyInt | smallInt | integer | bigInt => true
  | _ => false

/-- Types of numbers. -/
def isNumeric : ColumnType → Bool
  | tinyInt | smallInt | integer | bigInt | float | real | double | numeric | decimal => true
  | _ => false

/-- Types of points in time. -/
def isTemporal : ColumnType → Bool
  | date | time | timestamp => true
  | _ => false

/-- Types of large values. -/
def isLarge : ColumnType → Bool
  | longVarchar | clob | longVarbinary | blob => true
  | _ => false

/-- Types of truth values. -/
def isBoolean : ColumnType → Bool
  | boolean | booleanInt | booleanChar => true
  | _ => false

end ColumnType

end SchemaDdl
