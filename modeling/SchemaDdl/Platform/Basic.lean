import SchemaDdl.Error
import SchemaDdl.Platform.Domain
import SchemaDdl.Text.Blank
import SchemaDdl.Text.Quoted

/-!
# Platforms

A platform is a dialect together with the switch for identifier quoting. What a dialect has and
writes is one record, its `Dialect.profile`; a reader sees the differences side by side there.

* **`Platform.identifier`**: an identifier as the platform writes it. With quoting, every part
  between dots stands between marks of its own.
* **`Platform.literal`**: a string literal.
* **`Dialect.ofName?`**: the dialect of a short name.
-/

namespace SchemaDdl

/-- How a dialect makes primary key values by itself. -/
inductive NativeIdMethod where
  | identity
  | sequence
  | serial
  deriving DecidableEq, Repr

/-- What a dialect has and writes. -/
structure Profile where
  name : String
  nativeIdMethod : NativeIdMethod := .identity
  maxNameLength : Nat := 64
  /-- Written after columns that may be null. -/
  nullText : String := ""
  /-- Written after columns that may not be null. -/
  notNullText : String := "NOT NULL"
  /-- Written after auto-incremented columns. -/
  autoIncrementText : String
  /-- Mark around quoted identifiers. -/
  identifierMark : Char := Char.ofNat 0x22
  trueText : String := "1"
  falseText : String := "0"
  hasIndexSize : Bool := false
  hasNativeDeleteTrigger : Bool := false
  allowsNullKeyInsert : Bool := true
  hasSchemas : Bool := false
  /-- Whether dropping a table can take constraints of other tables along. -/
  hasDropCascade : Bool := false
  allowsVarcharWithoutSize : Bool := false
  /-- Whether foreign keys stand inside the table they belong to. -/
  inlinesForeignKeys : Bool := true
  timestampFormat : String := "%Y-%m-%d %H:%M:%S"
  dateFormat : String := "%Y-%m-%d"
  timeFormat : String := "%H:%M:%S"
  /-- First paragraph of a script. -/
  beginText : String := ""
  /-- Last paragraph of a script. -/
  endText : String := ""

/-- The profile of every dialect. -/
def Dialect.profile : Dialect → Profile
  | generic => { name := "sql", autoIncrementText := "IDENTITY" }
  | mysql _ => {
      name := "mysql"
      autoIncrementText := "AUTO_INCREMENT"
      identifierMark := Char.ofNat 0x60
      hasIndexSize := true
      hasSchemas := true
      beginText := "SET FOREIGN_KEY_CHECKS = 0;"
      endText := "SET FOREIGN_KEY_CHECKS = 1;" }
  | postgresql => {
      name := "pgsql"
      nativeIdMethod := .serial
      maxNameLength := 63
      autoIncrementText := ""
      trueText := "'t'"
      falseText := "'f'"
      hasNativeDeleteTrigger := true
      allowsNullKeyInsert := false
      hasSchemas := true
      hasDropCascade := true
      allowsVarcharWithoutSize := true
      inlinesForeignKeys := false
      beginText := "BEGIN;"
      endText := "COMMIT;" }
  | sqlite => {
      name := "sqlite"
      autoIncrementText := "PRIMARY KEY AUTOINCREMENT"
      beginText := "PRAGMA foreign_keys = OFF;"
      endText := "PRAGMA foreign_keys = ON;" }

/-- Short names of the dialects, in lower case, each with its dialect. -/
def Dialect.names (engine : String) : List (String × Dialect) := [
  ("mysql", .mysql engine),
  ("pgsql", .postgresql), ("postgres", .postgresql), ("postgresql", .postgresql),
  ("sqlite", .sqlite),
  ("sql", .generic), ("generic", .generic)]

/-- The dialect of a short name, in whatever case and with blanks around it. -/
def Dialect.ofName? (engine name : String) : Option Dialect :=
  (Dialect.names engine).lookup (Text.lower (Text.trim name))

/-- Text between the parts of a qualified identifier. -/
def schemaDelimiter : String := "."

/-- A dialect together with the switch for identifier quoting. -/
structure Platform where
  dialect : Dialect
  quoting : Bool
  deriving DecidableEq, Repr

namespace Platform

/-- The profile of the platform's dialect. -/
def profile (p : Platform) : Profile := p.dialect.profile

/-- A string literal: apostrophes around it, and inside it twice. -/
def literal (_ : Platform) (s : String) : String := Text.quoted (Char.ofNat 0x27) s

/-- One part of an identifier between marks. -/
def marked (p : Platform) (s : String) : String := Text.quoted p.profile.identifierMark s

/-- An identifier, with each of its parts between marks if quoting is on. -/
def identifier (p : Platform) (s : String) : String :=
  if p.quoting then Text.join schemaDelimiter ((Text.split schemaDelimiter s).map p.marked) else s

/-- Several identifiers with a delimiter between them. -/
def identifiers (p : Platform) (names : List String) (delimiter : String) : String :=
  Text.join delimiter (names.map p.identifier)

/-- The literal of a truth value. -/
def booleanText (p : Platform) (b : Bool) : String :=
  if b then p.profile.trueText else p.profile.falseText

end Platform

end SchemaDdl
