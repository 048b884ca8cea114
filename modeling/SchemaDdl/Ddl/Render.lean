import SchemaDdl.Ddl.Script
import SchemaDdl.Platform.Column
import SchemaDdl.Platform.Table

/-!
# The text of statements

Each statement is first taken apart into its definitions and column lists, and these are joined with
separators. A statement names entities by position, so rendering can fail only by a position that
leads nowhere.

* **`QualifiedName`**: a name by its parts.
* **`Platform.tableName`**: a table as it is written wherever it occurs, with its schema on
  platforms that have schemas.
* **`Statement.render`**, **`Database.render`**, **`Database.script`**: one statement, a list of
  them between the platform's first and last paragraph, and everything from the database on.
-/

namespace SchemaDdl

/-- A name by its parts, outermost first. -/
structure QualifiedName where
  parts : List String
  deriving DecidableEq, Repr

namespace QualifiedName

/-- The parts of a text between delimiters. -/
def split (name delimiter : String) : QualifiedName := ⟨Text.split delimiter name⟩

/-- A name of one part. -/
def single (name : String) : QualifiedName := ⟨[name]⟩

/-- The parts with dots between them. -/
def text (n : QualifiedName) : String := Text.join "." n.parts

end QualifiedName

namespace Platform

/-- A name as the platform writes it. -/
def qualifiedName (p : Platform) (n : QualifiedName) : String :=
  Text.join "." (n.parts.map p.identifier)

/-- The name of an entity's table. -/
def tableNameParts (p : Platform) (e : Entity) : QualifiedName :=
  if p.profile.hasSchemas then .split e.fullTable schemaDelimiter else .single e.table

/-- The name of an entity's table as the platform writes it. -/
def tableName (p : Platform) (e : Entity) : String := p.qualifiedName (p.tableNameParts e)

end Platform

namespace Database

/-- The entity at a position, which must be there. -/
def entityAt (db : Database) (id : EntityId) : Except Missing Entity :=
  match db.entity? id with
  | some e => .ok e
  | none => .error .entity

end Database

-- ── Clauses ───────────────────────────────────────────────────────────────────

/-- A list of columns in parentheses. -/
def columnList (columns : List String) : String :=
  Text.concat ["(", Text.join ", " columns, ")"]

/-- The clause of a referential action; empty if there is none. -/
def actionClause (event : String) (action : ReferentialAction) : String :=
  if action.isNone then "" else Text.concat [" ON ", event, " ", action.text]

/-- A foreign key, given the table that it references. -/
def ForeignKey.render (p : Platform) (target : Entity) (key : ForeignKey) : String :=
  Text.concat [
    "CONSTRAINT ", p.identifier key.name,
    " FOREIGN KEY ", columnList (key.columns.map p.identifier),
    " REFERENCES ", p.tableName target,
    " ", columnList (key.referencedColumns.map p.identifier),
    actionClause "UPDATE" key.onUpdate, actionClause "DELETE" key.onDelete]

/-- The texts of foreign keys. -/
def renderForeignKeys (db : Database) (p : Platform) :
    List ForeignKey → Except Missing (List String)
  | [] => .ok []
  | key :: keys =>
    match db.entityAt key.references with
    | .error m => .error m
    | .ok target =>
      match renderForeignKeys db p keys with
      | .error m => .error m
      | .ok rest => .ok (key.render p target :: rest)

/-- The columns of a table and its primary key clause, if it has one. -/
def ownDefinitions (p : Platform) (e : Entity) : List String :=
  e.fields.map p.column ++ [p.primaryKeyClause e].filter (!·.isEmpty)

/-- Line break and indentation in front of a definition. -/
def definitionBreak : String := "\n    "

/-- What stands between two definitions. -/
def definitionSeparator : String := ",\n    "

/-- The body of a table: each definition on a line of its own. -/
def tableBody (definitions : List String) : String :=
  if definitions.isEmpty then "\n"
  else Text.concat [definitionBreak, Text.join definitionSeparator definitions, "\n"]

/-- A text behind a blank, or nothing if it is empty. -/
def behindBlank (s : String) : String :=
  if s.isEmpty then "" else Text.concat [" ", s]

/-- A column of an index, with its prefix length on platforms that know such. -/
def indexColumn (p : Platform) (f : IndexField) : String :=
  Text.concat [
    p.identifier f.name, if p.profile.hasIndexSize then Field.sizeText f.size none else ""]

/-- An index of a table. -/
def Index.render (p : Platform) (e : Entity) (index : Index) : String :=
  Text.concat [
    "CREATE ", if index.unique then "UNIQUE " else "", "INDEX ",
    p.identifier (index.nameOn e.table), " ON ", p.tableName e,
    " ", columnList (index.fields.map (indexColumn p))]

-- ── Statements ────────────────────────────────────────────────────────────────

/-- The statement that creates a table, given the texts of the foreign keys inside it. -/
def createTableText (p : Platform) (e : Entity) (keyTexts : List String) : String :=
  Text.concat [
    "CREATE TABLE ", p.tableName e, " (", tableBody (ownDefinitions p e ++ keyTexts), ")",
    behindBlank (p.tableOptions e)]

/-- The statement that drops a table. -/
def dropTableText (p : Platform) (e : Entity) (ifExists cascade : Bool) : String :=
  Text.concat [
    "DROP TABLE ", if ifExists then "IF EXISTS " else "", p.tableName e,
    if cascade then " CASCADE" else ""]

/-- The statement that adds a foreign key to a finished table. -/
def addForeignKeyText (p : Platform) (owner target : Entity) (key : ForeignKey) : String :=
  Text.concat ["ALTER TABLE ", p.tableName owner, " ADD ", key.render p target]

/-- A statement without its semicolon. -/
def Statement.body (db : Database) (p : Platform) : Statement → Except Missing String
  | .createTable table keys =>
    match db.entityAt table with
    | .error m => .error m
    | .ok e =>
      match renderForeignKeys db p keys with
      | .error m => .error m
      | .ok keyTexts =>
        .ok (createTableText p e keyTexts)
  | .createIndex table position =>
    match db.entityAt table with
    | .error m => .error m
    | .ok e =>
      match e.indices[position]? with
      | none => .error .index
      | some index => .ok (index.render p e)
  | .dropTable table ifExists cascade =>
    match db.entityAt table with
    | .error m => .error m
    | .ok e =>
      .ok (dropTableText p e ifExists cascade)
  | .addForeignKey key =>
    match db.entityAt key.table with
    | .error m => .error m
    | .ok owner =>
      match db.entityAt key.references with
      | .error m => .error m
      | .ok target => .ok (addForeignKeyText p owner target key)

/-- A statement with its semicolon. -/
def Statement.render (db : Database) (p : Platform) (s : Statement) : Except Missing String :=
  (s.body db p).map fun body => Text.concat [body, ";"]

namespace Database

/-- Paragraphs of a script. Empty first and last paragraphs are left out. -/
def paragraphs (p : Platform) (texts : List String) : List String :=
  [p.profile.beginText].filter (!·.isEmpty) ++ texts ++ [p.profile.endText].filter (!·.isEmpty)

/-- The script of a list of statements. -/
def render (db : Database) (p : Platform) (statements : List Statement) :
    Except Missing String :=
  match statements.mapM (·.render db p) with
  | .error m => .error m
  | .ok texts => .ok (Text.concat [Text.join "\n\n" (paragraphs p texts), "\n"])

/-- The script of a database. -/
def script (db : Database) (p : Platform) (s : Settings) : Except Failure String :=
  match db.statements p s with
  | .error e => .error (.error e)
  | .ok statements =>
    match db.render p statements with
    | .error m => .error (.missing m)
    | .ok text => .ok text

end Database

end SchemaDdl
