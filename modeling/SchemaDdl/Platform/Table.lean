import SchemaDdl.Platform.Basic
import SchemaDdl.Schema.Entity

/-!
# Table clauses

What stands in a table definition besides its columns and foreign keys: the primary key, and behind
the closing parenthesis the options of the table.
-/

namespace SchemaDdl.Platform

/-- Whether the primary key is declared on the auto-incremented column, and not for the table. -/
def keyOnColumn (p : Platform) (e : Entity) : Bool :=
  match p.dialect with
  | .sqlite => e.autoIncrementKey?.isSome
  | _ => false

/-- The primary key clause of a table; empty if there is no key, or if a column declares it. -/
def primaryKeyClause (p : Platform) (e : Entity) : String :=
  if e.primaryKeyNames.isEmpty || p.keyOnColumn e then ""
  else Text.concat ["PRIMARY KEY (", p.identifiers e.primaryKeyNames ", ", ")"]

/-- Options of a MySQL table: name of the vendor parameter, and text in front of the value. -/
def mysqlOptions : List (String × String) := [
  ("charset", "CHARACTER SET"), ("collate", "COLLATE"), ("checksum", "CHECKSUM"),
  ("pack_keys", "PACK_KEYS"), ("delay_key_write", "DELAY_KEY_WRITE"), ("row_format", "ROW_FORMAT")]

/-- The options of a table; only MySQL has any. -/
def tableOptions (p : Platform) (e : Entity) : String :=
  match p.dialect with
  | .mysql engine =>
    let block := e.vendor.forKind "mysql"
    let comment := e.description.map fun s => Text.concat ["COMMENT=", p.literal s]
    let others := mysqlOptions.filterMap fun (name, text) =>
      (block.option? name).map fun value => Text.concat [text, "=", p.literal value]
    let engine := Text.concat ["ENGINE=", (block.option? "engine").getD engine]
    Text.join " " (engine :: comment.toList ++ others)
  | _ => ""

end SchemaDdl.Platform
