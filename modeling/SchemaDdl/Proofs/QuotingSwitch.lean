import SchemaDdl.Proofs.KeyDeclaration
import SchemaDdl.Proofs.Marks

/-!
# What the switch for quoting does

Quoting puts marks around the parts of identifiers and changes nothing else: which statements there
are, in what order, and every other character is the same with and without it. That is said of any
database by deleting the marks on both sides. Where the schema has no marks of its own, nothing is
deleted from the unquoted script, and so it is what the quoted one leaves.

* **`Text.without`**: a text with all occurrences of a character deleted.
* **`Platform.without_identifier`**: an identifier without marks does not show whether it is quoted.
* **`Database.without_script`**: neither does a script, whatever its database holds.
* **`Database.script_unquoted`**: the quoted script without its marks is the unquoted script.
-/

namespace SchemaDdl

namespace Text

-- ── Deleting a character ──────────────────────────────────────────────────────

/-- A text with all occurrences of a character deleted. -/
def without (c : Char) (s : String) : String := String.ofList (s.toList.filter (· != c))

section Without

variable {c : Char} {s : String}

/-- Deleting a character from a text deletes it from both parts. -/
theorem without_append (c : Char) (s t : String) :
    without c (s ++ t) = without c s ++ without c t := by
  rw [without, String.toList_append, List.filter_append, String.ofList_append]
  rfl

theorem without_concat (c : Char) (parts : List String) :
    without c (concat parts) = concat (parts.map (without c)) := by
  induction parts with
  | nil => rfl
  | cons part parts ih => rw [concat, without_append, ih, List.map_cons, concat]

/-- Deleting a character from joined texts deletes it from the texts and from what stands between
    them. -/
theorem without_join (c : Char) (sep : String) (parts : List String) :
    without c (join sep parts) = join (without c sep) (parts.map (without c)) := by
  induction parts with
  | nil => rfl
  | cons part parts ih =>
      cases parts with
      | nil => rfl
      | cons next parts =>
          show without c (part ++ sep ++ join sep (next :: parts)) = _
          rw [without_append, without_append, ih]
          rfl

/-- Texts that differ in nothing but a character do not differ without it. -/
theorem map_without_congr {α : Type} {f g : α → String}
    (h : ∀ a, without c (f a) = without c (g a)) (as : List α) :
    (as.map f).map (without c) = (as.map g).map (without c) := by
  rw [List.map_map, List.map_map]
  exact List.map_congr_left fun a _ => h a

/-- Only what occurs can be deleted. -/
theorem without_of_lacks (h : Lacks c s) : without c s = s := by
  have hkept : ∀ d ∈ s.toList, (d != c) = true := fun d hd =>
    bne_iff_ne.mpr fun heq => h (heq ▸ hd)
  rw [without, List.filter_eq_self.mpr hkept, String.ofList_toList]

/-- Without the mark, nothing shows that marks had been doubled. -/
theorem filter_doubled (c : Char) (cs : List Char) :
    (doubled c cs).filter (· != c) = cs.filter (· != c) := by
  induction cs with
  | nil => rfl
  | cons d ds ih =>
      rw [doubled]
      split
      · rename_i hd
        simp [hd, ih]
      · simp [List.filter_cons, ih]

/-- A text loses its quotes with its marks. -/
theorem without_quoted (c : Char) (s : String) : without c (quoted c s) = without c s := by
  rw [without, quoted, String.toList_ofList, quotedChars]
  simp [filter_doubled, without]

end Without

end Text

open Text (without without_concat without_join map_without_congr)

-- ── Clauses ───────────────────────────────────────────────────────────────────

namespace Platform

variable (d : Dialect)

/-- An identifier without marks does not show whether it is quoted. -/
theorem without_identifier (s : String) :
    without d.mark (identifier ⟨d, true⟩ s) = without d.mark (identifier ⟨d, false⟩ s) := by
  have hparts : (Text.split schemaDelimiter s).map (without d.mark ∘ marked ⟨d, true⟩) =
      (Text.split schemaDelimiter s).map (without d.mark) :=
    List.map_congr_left fun part _ => Text.without_quoted d.mark part
  show without d.mark
    (Text.join schemaDelimiter ((Text.split schemaDelimiter s).map (marked ⟨d, true⟩))) =
      without d.mark s
  rw [without_join, List.map_map, hparts, ← without_join, join_split_delimiter]

/-- The name of a table is an identifier as a whole, its schema included. -/
theorem without_tableName (e : Entity) :
    without d.mark (tableName ⟨d, true⟩ e) = without d.mark (tableName ⟨d, false⟩ e) := by
  rw [tableName_eq, tableName_eq]
  exact without_identifier d _

/-- Of a column, only the name is an identifier. -/
theorem without_column (f : Field) :
    without d.mark (column ⟨d, true⟩ f) = without d.mark (column ⟨d, false⟩ f) := by
  rw [column, column]
  simp only [without_join, List.map_cons, without_identifier d f.name]
  rfl

/-- Whether there is a primary key clause does not depend on quoting, and apart from that only the
    names in it are identifiers. -/
theorem without_primaryKeyClause (e : Entity) :
    without d.mark (primaryKeyClause ⟨d, true⟩ e) =
      without d.mark (primaryKeyClause ⟨d, false⟩ e) := by
  have hnames : without d.mark (identifiers ⟨d, true⟩ e.primaryKeyNames ", ") =
      without d.mark (identifiers ⟨d, false⟩ e.primaryKeyNames ", ") := by
    rw [identifiers, identifiers, without_join, without_join,
      map_without_congr (without_identifier d)]
  rw [primaryKeyClause, primaryKeyClause]
  show without d.mark (if e.primaryKeyNames.isEmpty || keyOnColumn ⟨d, false⟩ e then _ else _) = _
  split
  · rfl
  · simp only [without_concat, List.map_cons, hnames]

/-- Quoting has no say in whether there is a primary key clause. -/
theorem isEmpty_primaryKeyClause (e : Entity) :
    (primaryKeyClause ⟨d, true⟩ e).isEmpty = (primaryKeyClause ⟨d, false⟩ e).isEmpty := by
  rw [Bool.eq_iff_iff, String.isEmpty_iff, String.isEmpty_iff, primaryKeyClause_eq_empty,
    primaryKeyClause_eq_empty]
  rfl

end Platform

section Clauses

variable (d : Dialect) (e target : Entity) (key : ForeignKey)

theorem without_columnList {c : Char} {columns columns' : List String}
    (h : columns.map (without c) = columns'.map (without c)) :
    without c (columnList columns) = without c (columnList columns') := by
  simp only [columnList, without_concat, List.map_cons, without_join, h]

/-- Columns and the primary key clause differ in marks only, and there are as many definitions. -/
theorem map_without_ownDefinitions :
    (ownDefinitions ⟨d, true⟩ e).map (without d.mark) =
      (ownDefinitions ⟨d, false⟩ e).map (without d.mark) := by
  rw [ownDefinitions, ownDefinitions, List.map_append, List.map_append,
    map_without_congr (Platform.without_column d)]
  congr 1
  simp only [List.filter_cons, List.filter_nil, Platform.isEmpty_primaryKeyClause]
  split
  · simp only [List.map_cons, List.map_nil, Platform.without_primaryKeyClause]
  · rfl

/-- The layout of a table depends on whether it has definitions, not on what they say. -/
theorem without_tableBody {c : Char} {definitions definitions' : List String}
    (h : definitions.map (without c) = definitions'.map (without c)) :
    without c (tableBody definitions) = without c (tableBody definitions') := by
  have hempty : definitions.isEmpty = definitions'.isEmpty := by
    rw [← List.isEmpty_map, h, List.isEmpty_map]
  rw [tableBody, tableBody, hempty]
  split
  · rfl
  · simp only [without_concat, List.map_cons, without_join, h]

theorem without_indexColumn (f : IndexField) :
    without d.mark (indexColumn ⟨d, true⟩ f) = without d.mark (indexColumn ⟨d, false⟩ f) := by
  simp only [indexColumn, without_concat, List.map_cons, Platform.without_identifier]
  rfl

/-- The identifiers of an index are its name, its table and its columns. -/
theorem Index.without_render (index : Index) :
    without d.mark (index.render ⟨d, true⟩ e) = without d.mark (index.render ⟨d, false⟩ e) := by
  have hcolumns := without_columnList (map_without_congr (without_indexColumn d) index.fields)
  simp only [render, without_concat, List.map_cons, Platform.without_identifier,
    Platform.without_tableName, hcolumns]

/-- A foreign key has its name, the target's table and the columns of both sides as identifiers. -/
theorem ForeignKey.without_render :
    without d.mark (key.render ⟨d, true⟩ target) =
      without d.mark (key.render ⟨d, false⟩ target) := by
  have hcolumns := fun names =>
    without_columnList (map_without_congr (Platform.without_identifier d) names)
  simp only [render, without_concat, List.map_cons, Platform.without_identifier,
    Platform.without_tableName, hcolumns]

-- ── Statements ────────────────────────────────────────────────────────────────

/-- A table is created by the same text but for marks, whatever foreign keys it holds, if they are
    the same but for marks. -/
theorem without_createTableText {keyTexts keyTexts' : List String}
    (h : keyTexts.map (without d.mark) = keyTexts'.map (without d.mark)) :
    without d.mark (createTableText ⟨d, true⟩ e keyTexts) =
      without d.mark (createTableText ⟨d, false⟩ e keyTexts') := by
  have hdefinitions : (ownDefinitions ⟨d, true⟩ e ++ keyTexts).map (without d.mark) =
      (ownDefinitions ⟨d, false⟩ e ++ keyTexts').map (without d.mark) := by
    rw [List.map_append, List.map_append, map_without_ownDefinitions, h]
  simp only [createTableText, without_concat, List.map_cons, Platform.without_tableName,
    without_tableBody hdefinitions]
  rfl

theorem without_dropTableText (ifExists cascade : Bool) :
    without d.mark (dropTableText ⟨d, true⟩ e ifExists cascade) =
      without d.mark (dropTableText ⟨d, false⟩ e ifExists cascade) := by
  simp only [dropTableText, without_concat, List.map_cons, Platform.without_tableName]

theorem without_addForeignKeyText :
    without d.mark (addForeignKeyText ⟨d, true⟩ e target key) =
      without d.mark (addForeignKeyText ⟨d, false⟩ e target key) := by
  simp only [addForeignKeyText, without_concat, List.map_cons, Platform.without_tableName,
    ForeignKey.without_render]

end Clauses

-- ── Scripts ───────────────────────────────────────────────────────────────────

section Scripts

variable (db : Database) (d : Dialect)

/-- Rendering fails at the same foreign key with the same message, or the texts differ in marks
    only. -/
theorem without_renderForeignKeys (keys : List ForeignKey) :
    (renderForeignKeys db ⟨d, true⟩ keys).map (List.map (without d.mark)) =
      (renderForeignKeys db ⟨d, false⟩ keys).map (List.map (without d.mark)) := by
  induction keys with
  | nil => rfl
  | cons key keys ih =>
      rw [renderForeignKeys, renderForeignKeys]
      cases db.entityAt key.references with
      | error m => rfl
      | ok target =>
          rcases cases_of_map_eq ih with ⟨m, hl, hr⟩ | ⟨texts, texts', hl, hr, htexts⟩
          · rw [hl, hr]
          · rw [hl, hr]
            exact congrArg Except.ok
              (congrArg₂ List.cons (ForeignKey.without_render d target key) htexts)

/-- A statement is written by the same text but for marks, with and without quoting, or fails with
    the same message. Every kind of statement looks the same entities up, so the failures agree, and
    then its text does. -/
theorem Statement.without_body (st : Statement) :
    (st.body db ⟨d, true⟩).map (without d.mark) = (st.body db ⟨d, false⟩).map (without d.mark) := by
  cases st with
  | createTable table keys =>
      rw [body, body]
      cases db.entityAt table with
      | error m => rfl
      | ok e =>
          rcases cases_of_map_eq (without_renderForeignKeys db d keys) with
            ⟨m, hl, hr⟩ | ⟨texts, texts', hl, hr, htexts⟩
          · rw [hl, hr]
          · rw [hl, hr]
            exact congrArg Except.ok (without_createTableText d e htexts)
  | createIndex table position =>
      rw [body, body]
      cases db.entityAt table with
      | error m => rfl
      | ok e =>
          cases hindex : e.indices[position]? with
          | none => simp only [hindex]
          | some index =>
              simp only [hindex]
              exact congrArg Except.ok (Index.without_render d e index)
  | dropTable table ifExists cascade =>
      rw [body, body]
      cases db.entityAt table with
      | error m => rfl
      | ok e => exact congrArg Except.ok (without_dropTableText d e ifExists cascade)
  | addForeignKey key =>
      rw [body, body]
      cases db.entityAt key.table with
      | error m => rfl
      | ok owner =>
          cases db.entityAt key.references with
          | error m => rfl
          | ok target => exact congrArg Except.ok (without_addForeignKeyText d owner target key)

/-- The same goes for a statement with its semicolon. -/
theorem Statement.without_render (st : Statement) :
    (st.render db ⟨d, true⟩).map (without d.mark) =
      (st.render db ⟨d, false⟩).map (without d.mark) := by
  rw [render, render]
  rcases cases_of_map_eq (st.without_body db d) with ⟨m, hl, hr⟩ | ⟨text, text', hl, hr, htext⟩
  · rw [hl, hr]
  · rw [hl, hr]
    refine congrArg Except.ok ?_
    simp only [without_concat, List.map_cons, htext]

namespace Database

/-- What opens and closes a script has no identifiers. -/
theorem map_without_paragraphs {texts texts' : List String}
    (h : texts.map (without d.mark) = texts'.map (without d.mark)) :
    (paragraphs ⟨d, true⟩ texts).map (without d.mark) =
      (paragraphs ⟨d, false⟩ texts').map (without d.mark) := by
  simp only [paragraphs, List.map_append, h]
  rfl

/-- A list of statements is rendered alike but for marks, or fails at the same statement. -/
theorem without_render (stmts : List Statement) :
    (db.render ⟨d, true⟩ stmts).map (without d.mark) =
      (db.render ⟨d, false⟩ stmts).map (without d.mark) := by
  rw [render, render]
  rcases cases_of_map_eq (map_mapM_congr (fun st => Statement.without_render db d st) stmts) with
    ⟨m, hl, hr⟩ | ⟨texts, texts', hl, hr, htexts⟩
  · rw [hl, hr]
  · rw [hl, hr]
    refine congrArg Except.ok ?_
    simp only [without_concat, List.map_cons, without_join, map_without_paragraphs d htexts]

/-- A script without marks does not show whether its identifiers are quoted. -/
theorem without_script (s : Settings) :
    (db.script ⟨d, true⟩ s).map (without d.mark) =
      (db.script ⟨d, false⟩ s).map (without d.mark) := by
  -- which statements there are is settled before anything is written
  have hstmts : db.statements ⟨d, true⟩ s = db.statements ⟨d, false⟩ s := rfl
  rw [script, script, hstmts]
  cases db.statements ⟨d, false⟩ s with
  | error e => rfl
  | ok stmts =>
      rcases cases_of_map_eq (without_render db d stmts) with
        ⟨m, hl, hr⟩ | ⟨text, text', hl, hr, htext⟩
      · simp only [hl, hr]
      · simp only [hl, hr]
        exact congrArg Except.ok htext

variable {db d}

/-- Quoting adds marks and does nothing else. Where the mark of the dialect occurs in no text of the
    database and not in the engine, the quoted script without its marks is the unquoted script, and
    the one fails if and only if the other does, with the same failure. -/
theorem script_unquoted (h : ∀ text ∈ db.texts, Text.Lacks d.mark text)
    (hengine : ∀ text ∈ d.engine?, Text.Lacks d.mark text) (s : Settings) :
    (db.script ⟨d, true⟩ s).map (without d.mark) = db.script ⟨d, false⟩ s := by
  -- the marks are deleted from the unquoted script as well, which has none
  rw [without_script]
  cases hok : db.script ⟨d, false⟩ s with
  | error f => rfl
  | ok text => exact congrArg Except.ok (Text.without_of_lacks (lacks_script h hengine hok))

/-- A shop with one table, named by a keyword and behind a schema. -/
def shop : Database := (named "shop").runAll [
  .addEntity ⟨"Order", [
    .assign [.schema (some "shop")],
    .addField { Field.plain "id" .integer with primaryKey := true }]⟩,
  .finalize ⟨.mysql "InnoDB", true⟩]

/-- The script of the shop in MySQL, where four names are quoted. -/
theorem script_unquoted_shop :
    shop.Reachable ∧ shop.finalized = true ∧
      (∀ text ∈ shop.texts, Text.Lacks (Dialect.mysql "InnoDB").mark text) ∧
      (∀ text ∈ (Dialect.mysql "InnoDB").engine?,
        Text.Lacks (Dialect.mysql "InnoDB").mark text) ∧
      (shop.script ⟨.mysql "InnoDB", true⟩ .standard).toOption = some
        ("SET FOREIGN_KEY_CHECKS = 0;\n\n" ++
          "CREATE TABLE `shop`.`order` (\n    `id` INTEGER NOT NULL,\n    PRIMARY KEY (`id`)\n) " ++
          "ENGINE=InnoDB;\n\nSET FOREIGN_KEY_CHECKS = 1;\n") ∧
      (shop.script ⟨.mysql "InnoDB", true⟩ .standard).map (without (Dialect.mysql "InnoDB").mark) =
        shop.script ⟨.mysql "InnoDB", false⟩ .standard := by
  have htexts : ∀ text ∈ shop.texts, Text.Lacks (Dialect.mysql "InnoDB").mark text := by
    decide +kernel
  have hengine : ∀ text ∈ (Dialect.mysql "InnoDB").engine?,
      Text.Lacks (Dialect.mysql "InnoDB").mark text := by
    rintro text ⟨rfl⟩
    decide +kernel
  exact ⟨⟨"shop", _, rfl⟩, by decide +kernel, htexts, hengine, by decide +kernel,
    script_unquoted htexts hengine .standard⟩

end Database

end Scripts

end SchemaDdl
