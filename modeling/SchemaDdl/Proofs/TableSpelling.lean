import SchemaDdl.Proofs.TableNames

/-!
# One spelling for each table

Tables occur in five places of a script: where they are created, where they get an index, where a
foreign key references them, where one is added to them, and where they are dropped. In each place
the name is taken apart at its dots and written part by part, each part as an identifier that is
itself taken apart for quoting. Nothing is quoted twice by that and no dot is lost, so a table is
written like the identifier of its name in all five places.

* **`Statement.Spelled`**: what a statement is written as, when the spelling of tables is given.
* **`Database.script_spelled`**: every script is written so, with tables spelled as identifiers of
  their names, behind the schema on platforms that have schemas.
-/

namespace SchemaDdl

variable {db : Database} {p : Platform}

/-- A foreign key, given the spelling of the table that it references. -/
def ForeignKey.clause (p : Platform) (target : String) (key : ForeignKey) : String :=
  Text.concat [
    "CONSTRAINT ", p.identifier key.name,
    " FOREIGN KEY ", columnList (key.columns.map p.identifier),
    " REFERENCES ", target,
    " ", columnList (key.referencedColumns.map p.identifier),
    actionClause "UPDATE" key.onUpdate, actionClause "DELETE" key.onDelete]

/-- What a statement is written as without its semicolon, given the spelling of tables. Where a
    table occurs, its spelling is all that is written of it. -/
inductive Statement.Spelled (db : Database) (p : Platform) (spelling : Entity → String) :
    Statement → String → Prop where
  | createTable {id : EntityId} {keys : List ForeignKey} {e : Entity} {clauses : List String} :
      db.entity? id = some e →
      List.Forall₂ (fun key clause => ∃ target, db.entity? key.references = some target ∧
        clause = key.clause p (spelling target)) keys clauses →
      Spelled db p spelling (.createTable id keys) (Text.concat [
        "CREATE TABLE ", spelling e, " (", tableBody (ownDefinitions p e ++ clauses), ")",
        behindBlank (p.tableOptions e)])
  | createIndex {id : EntityId} {position : Nat} {e : Entity} {index : Index} :
      db.entity? id = some e → e.indices[position]? = some index →
      Spelled db p spelling (.createIndex id position) (Text.concat [
        "CREATE ", if index.unique then "UNIQUE " else "", "INDEX ",
        p.identifier (index.nameOn e.table), " ON ", spelling e, " ",
        columnList (index.fields.map (indexColumn p))])
  | dropTable {id : EntityId} {ifExists cascade : Bool} {e : Entity} :
      db.entity? id = some e →
      Spelled db p spelling (.dropTable id ifExists cascade) (Text.concat [
        "DROP TABLE ", if ifExists then "IF EXISTS " else "", spelling e,
        if cascade then " CASCADE" else ""])
  | addForeignKey {key : ForeignKey} {owner target : Entity} :
      db.entity? key.table = some owner → db.entity? key.references = some target →
      Spelled db p spelling (.addForeignKey key) (Text.concat [
        "ALTER TABLE ", spelling owner, " ADD ", key.clause p (spelling target)])

/-- What is written is written with tables spelled by their names. -/
theorem Statement.written_iff_spelled {st : Statement} {body : String} :
    Statement.Written db p st body ↔ Statement.Spelled db p p.tableName st body := by
  constructor
  · intro h
    cases h with
    | createTable he htexts => exact .createTable he (renderForeignKeys_eq_ok.mp htexts)
    | createIndex he hindex => exact .createIndex he hindex
    | dropTable he => exact .dropTable he
    | addForeignKey howner htarget => exact .addForeignKey howner htarget
  · intro h
    cases h with
    | createTable he hclauses => exact .createTable he (renderForeignKeys_eq_ok.mpr hclauses)
    | createIndex he hindex => exact .createIndex he hindex
    | dropTable he => exact .dropTable he
    | addForeignKey howner htarget => exact .addForeignKey howner htarget

namespace Database

/-- A name that is taken apart and written part by part is written as an identifier. So scripts are
    written with every table spelled as an identifier wherever it occurs, of its name behind the
    schema if the platform has schemas, and of its name alone if it has none. -/
theorem script_spelled (db : Database) (p : Platform) (s : Settings) (text : String) :
    (∀ name, p.qualifiedName (.split name schemaDelimiter) = p.identifier name) ∧
    (db.script p s = .ok text ↔ ∃ stmts texts, db.statements p s = .ok stmts ∧
      List.Forall₂ (fun st text => ∃ body, text = Text.concat [body, ";"] ∧
        st.Spelled db p (fun e => p.identifier
          (if p.profile.hasSchemas then e.fullTable else e.table)) body) stmts texts ∧
      text = Text.concat [Text.join "\n\n" (paragraphs p texts), "\n"]) := by
  have hspelling : p.tableName = fun e => p.identifier
      (if p.profile.hasSchemas then e.fullTable else e.table) := funext p.tableName_eq
  refine ⟨p.qualifiedName_split, ?_⟩
  simp only [script_eq_ok, render_eq_ok, Statement.render_eq_ok, Statement.written_iff_spelled,
    hspelling]
  constructor
  · rintro ⟨stmts, hstmts, texts, htexts, htext⟩
    exact ⟨stmts, texts, hstmts,
      htexts.imp fun st text ⟨body, hbody, hsemicolon⟩ => ⟨body, hsemicolon, hbody⟩, htext⟩
  · rintro ⟨stmts, texts, hstmts, htexts, htext⟩
    exact ⟨stmts, hstmts, texts,
      htexts.imp fun st text ⟨body, hsemicolon, hbody⟩ => ⟨body, hbody, hsemicolon⟩, htext⟩

/-- Marks inside a name are doubled once, and empty parts stay. -/
example : Platform.qualifiedName ⟨.postgresql, true⟩ (.split "shop..a\"b" schemaDelimiter) =
    "\"shop\".\"\".\"a\"\"b\"" := by decide +kernel

end Database

end SchemaDdl
