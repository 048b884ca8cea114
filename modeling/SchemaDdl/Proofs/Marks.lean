import SchemaDdl.Proofs.TableNames

/-!
# Where marks come from

A dialect writes identifiers between its marks. No keyword, type or number that it writes holds a
mark, and no name that the program derives. So where identifiers are not quoted, a mark in a script
was brought in by a text of the database, or by the engine that the dialect carries.

* **`Text.Lacks`**: a character that does not occur in a text.
* **`Database.texts`**: all texts of a database. Each part of a schema has its own list.
* **`Database.lacks_script`**: without quoting, a script lacks the mark that all these texts lack.
-/

namespace SchemaDdl

namespace Dialect

/-- The mark around quoted identifiers. -/
abbrev mark (d : Dialect) : Char := d.profile.identifierMark

/-- There are two marks in all. -/
theorem mark_eq (d : Dialect) : d.mark = Char.ofNat 0x22 ∨ d.mark = Char.ofNat 0x60 := by
  cases d with
  | mysql => exact .inr rfl
  | generic | postgresql | sqlite => exact .inl rfl

/-- The engine that a dialect carries, if it carries one. -/
def engine? : Dialect → Option String
  | mysql engine => some engine
  | _ => none

end Dialect

namespace Text

-- ── Characters that do not occur ──────────────────────────────────────────────

/-- A character does not occur in a text. -/
def Lacks (c : Char) (s : String) : Prop := c ∉ s.toList

instance (c : Char) (s : String) : Decidable (Lacks c s) :=
  inferInstanceAs (Decidable (c ∉ s.toList))

section Lacks

variable {c : Char} {s t sep : String} {parts : List String}

theorem lacks_empty (c : Char) : Lacks c "" := List.not_mem_nil

/-- A character is missing from a text if it is missing from both parts. -/
theorem lacks_append : Lacks c (s ++ t) ↔ Lacks c s ∧ Lacks c t := by
  rw [Lacks, String.toList_append, List.mem_append, not_or]
  rfl

theorem lacks_concat_nil (c : Char) : Lacks c (concat []) := lacks_empty c

theorem lacks_concat_cons : Lacks c (concat (s :: parts)) ↔ Lacks c s ∧ Lacks c (concat parts) := by
  rw [concat, lacks_append]

/-- Joining adds the separator only. -/
theorem lacks_join (hsep : Lacks c sep) (h : ∀ part ∈ parts, Lacks c part) :
    Lacks c (join sep parts) := by
  induction parts with
  | nil => exact lacks_empty c
  | cons part parts ih =>
      obtain ⟨hpart, hparts⟩ := List.forall_mem_cons.mp h
      cases parts with
      | nil => exact hpart
      | cons next parts =>
          show Lacks c (part ++ sep ++ join sep (next :: parts))
          rw [lacks_append, lacks_append]
          exact ⟨⟨hpart, hsep⟩, ih hparts⟩

/-- Doubling a mark brings in no other character. -/
theorem mem_doubled {mark : Char} {cs : List Char} (h : c ∈ doubled mark cs) : c ∈ cs := by
  induction cs with
  | nil => exact h
  | cons d ds ih =>
      rw [doubled] at h
      split at h
      · rename_i hd
        rcases List.mem_cons.mp h with rfl | h
        · exact hd ▸ List.mem_cons_self
        · rcases List.mem_cons.mp h with rfl | h
          · exact hd ▸ List.mem_cons_self
          · exact List.mem_cons_of_mem d (ih h)
      · rcases List.mem_cons.mp h with rfl | h
        · exact List.mem_cons_self
        · exact List.mem_cons_of_mem d (ih h)

/-- A quoted text has the characters of the text, and the mark. -/
theorem lacks_quoted {mark : Char} (hc : c ≠ mark) (h : Lacks c s) : Lacks c (quoted mark s) := by
  rw [Lacks, quoted, String.toList_ofList, quotedChars, List.mem_cons, List.mem_append,
    List.mem_singleton]
  rintro (hfirst | hinside | hlast)
  · exact hc hfirst
  · exact h (mem_doubled hinside)
  · exact hc hlast

end Lacks

-- ── Plain characters ──────────────────────────────────────────────────────────

/-- A character that is the mark of no dialect. -/
def isPlain (c : Char) : Bool := c != Char.ofNat 0x22 && c != Char.ofNat 0x60

/-- A text of plain characters has no marks, whatever the dialect. -/
theorem lacks_of_plain {d : Dialect} {s : String} (h : s.toList.all isPlain = true) :
    Lacks d.mark s := by
  have hmark : isPlain d.mark = false := by cases d <;> rfl
  intro hmem
  rw [List.all_eq_true.mp h _ hmem] at hmark
  exact nomatch hmark

/-- Numbers are written in digits. -/
theorem lacks_toString (d : Dialect) (n : Nat) : Lacks d.mark (toString n) := by
  intro h
  rw [Nat.toString_eq_ofList_toDigits, String.toList_ofList] at h
  have hdigit := Nat.isDigit_of_mem_toDigits (by decide) (by decide) h
  have hmark : d.mark.isDigit = false := by cases d <;> rfl
  rw [hmark] at hdigit
  exact nomatch hdigit

/-- Digests are written in hexadecimal digits. -/
theorem lacks_shortDigest (d : Dialect) (s : String) : Lacks d.mark (Digest.shortDigest s) := by
  have hdigit : ∀ n < 16, isPlain (Digest.hexDigit n) = true := by decide
  have hhex : ∀ bytes, ∀ c ∈ Digest.hex bytes, isPlain c = true := by
    intro bytes c hc
    obtain ⟨b, -, hc⟩ := List.mem_flatMap.mp hc
    have hbyte := b.toNat_lt
    rcases List.mem_pair.mp hc with rfl | rfl
    · exact hdigit _ (by omega)
    · exact hdigit _ (by omega)
  refine lacks_of_plain (List.all_eq_true.mpr fun c hc => ?_)
  rw [Digest.shortDigest, String.toList_ofList] at hc
  exact hhex _ c (List.mem_of_mem_take hc)

/-- Derived names of tables have no marks, even if names of entities have: marks separate words. -/
theorem lacks_snake (d : Dialect) (s : String) : Lacks d.mark (snake s) := by
  rcases d.mark_eq with h | h
  · rw [h]
    exact not_mem_snake (by decide) (by decide) (by decide +kernel) s
  · rw [h]
    exact not_mem_snake (by decide) (by decide) (by decide +kernel) s

end Text

open Text (Lacks lacks_empty lacks_concat_nil lacks_concat_cons lacks_join lacks_of_plain
  lacks_toString)

-- ── Texts of a schema ─────────────────────────────────────────────────────────

/-- The texts of vendor blocks. -/
def VendorBlocks.texts (blocks : VendorBlocks) : List String :=
  blocks.byKind.entries.flatMap fun entry =>
    entry.1 :: entry.2.kind :: entry.2.parameters.entries.flatMap fun p => [p.1, p.2]

/-- The texts of a field. -/
def Field.texts (f : Field) : List String :=
  f.name :: f.sqlType.toList ++ (f.default.map (·.text)).toList ++ f.description.toList ++
    f.valueSet ++ f.vendor.texts

/-- The texts of an index. -/
def Index.texts (index : Index) : List String :=
  index.name.toList ++ index.fieldNames ++ index.vendor.texts

/-- The texts of a relation. -/
def Relation.texts (r : Relation) : List String :=
  r.target :: r.storedName?.toList ++ r.field.toList ++ r.refField.toList ++ r.refName.toList ++
    r.foreignSchema.toList ++ r.localFields ++ r.foreignFields ++
    [r.onUpdate.text, r.onDelete.text, r.defaultJoin] ++ r.vendor.texts

/-- The texts of an entity. -/
def Entity.texts (e : Entity) : List String :=
  e.name :: e.tableName.toList ++ e.schema.toList ++ e.namespaceName.toList ++
    e.description.toList ++ e.fields.flatMap (·.texts) ++ e.relations.flatMap (·.texts) ++
    e.indices.flatMap (·.texts) ++ e.vendor.texts

/-- The texts of a database. -/
def Database.texts (db : Database) : List String :=
  db.name :: db.schema.toList ++ db.namespaceName.toList ++ db.entities.flatMap (·.texts) ++
    db.vendor.texts

/-- The value of an option is among the texts of the blocks. -/
theorem VendorBlocks.mem_texts_of_option? {blocks : VendorBlocks} {kind name value : String}
    (h : (blocks.forKind kind).option? name = some value) : value ∈ blocks.texts := by
  obtain ⟨p, hp, rfl⟩ := Option.map_eq_some_iff.mp h
  have hmem := List.mem_of_find?_eq_some hp
  rw [forKind] at hmem
  cases hblock : blocks.byKind.get? (Text.lower kind) with
  | none =>
      rw [hblock] at hmem
      exact nomatch hmem
  | some block =>
      rw [hblock] at hmem
      refine List.mem_flatMap.mpr ⟨_, OrderedMap.mem_of_get? hblock, ?_⟩
      refine List.mem_cons_of_mem _ (List.mem_cons_of_mem _ (List.mem_flatMap.mpr ⟨p, hmem, ?_⟩))
      exact List.mem_cons_of_mem _ List.mem_cons_self

section Parts

variable {db : Database} {e : Entity} {c : Char}

theorem Database.lacks_entity (h : ∀ text ∈ db.texts, Lacks c text) (he : e ∈ db.entities) :
    ∀ text ∈ e.texts, Lacks c text := fun text htext =>
  h text (by simp only [texts, List.mem_append, List.mem_flatMap]; exact .inl (.inr ⟨e, he, htext⟩))

theorem Entity.lacks_field (h : ∀ text ∈ e.texts, Lacks c text) {f : Field} (hf : f ∈ e.fields) :
    ∀ text ∈ f.texts, Lacks c text := by
  intro text htext
  have hmem : text ∈ e.fields.flatMap (·.texts) := List.mem_flatMap.mpr ⟨f, hf, htext⟩
  exact h text (by simp only [texts, List.mem_append, hmem, true_or, or_true])

theorem Entity.lacks_relation (h : ∀ text ∈ e.texts, Lacks c text) {r : Relation}
    (hr : r ∈ e.relations) : ∀ text ∈ r.texts, Lacks c text := by
  intro text htext
  have hmem : text ∈ e.relations.flatMap (·.texts) := List.mem_flatMap.mpr ⟨r, hr, htext⟩
  exact h text (by simp only [texts, List.mem_append, hmem, true_or, or_true])

theorem Entity.lacks_index (h : ∀ text ∈ e.texts, Lacks c text) {index : Index}
    (hindex : index ∈ e.indices) : ∀ text ∈ index.texts, Lacks c text := by
  intro text htext
  have hmem : text ∈ e.indices.flatMap (·.texts) := List.mem_flatMap.mpr ⟨index, hindex, htext⟩
  exact h text (by simp only [texts, List.mem_append, hmem, true_or, or_true])

end Parts

-- ── Columns ───────────────────────────────────────────────────────────────────

/-- What a dialect writes of its own in columns, values and around a script. -/
def Profile.clauses (p : Profile) : List String :=
  [p.nullText, p.notNullText, p.autoIncrementText, p.trueText, p.falseText, p.beginText, p.endText]

namespace Dialect

/-- No dialect writes a mark in clauses of its own. -/
theorem lacks_clauses (d : Dialect) : ∀ text ∈ d.profile.clauses, Lacks d.mark text := by
  have hplain : d.profile.clauses.all (·.toList.all Text.isPlain) = true := by
    cases d with
    | mysql =>
        -- the engine has no part in the profile
        show (mysql "").profile.clauses.all _ = true
        rfl
    | generic | postgresql | sqlite => rfl
  exact fun text htext => lacks_of_plain (List.all_eq_true.mp hplain text htext)

/-- Nor does any of its column types have one. -/
theorem lacks_domain (d : Dialect) (type : ColumnType) : Lacks d.mark (d.domain type).sqlType := by
  refine lacks_of_plain ?_
  cases d with
  | mysql =>
      show (Domain.mysql type).sqlType.toList.all _ = true
      cases type <;> rfl
  | generic | postgresql | sqlite => cases type <;> rfl

theorem lacks_autoIncrementType? {d : Dialect} {type : ColumnType} {sqlType : String}
    (h : d.autoIncrementType? type = some sqlType) : Lacks d.mark sqlType := by
  have hplain : (d.autoIncrementType? type).all (·.toList.all Text.isPlain) = true := by
    cases d with
    | generic | mysql | sqlite => rfl
    | postgresql => cases type <;> rfl
  rw [h] at hplain
  exact lacks_of_plain hplain

end Dialect

/-- Sizes are digits, brackets and a comma. -/
theorem Field.lacks_sizeText (d : Dialect) (size scale : Option Nat) :
    Lacks d.mark (Field.sizeText size scale) := by
  cases size with
  | none => exact lacks_empty _
  | some size =>
      cases scale with
      | none =>
          simp only [Field.sizeText, lacks_concat_cons, lacks_concat_nil, and_true]
          exact ⟨lacks_of_plain rfl, lacks_toString d size, lacks_of_plain rfl⟩
      | some scale =>
          simp only [Field.sizeText, lacks_concat_cons, lacks_concat_nil, and_true]
          exact ⟨lacks_of_plain rfl, lacks_toString d size, lacks_of_plain rfl,
            lacks_toString d scale, lacks_of_plain rfl⟩

namespace Platform

variable {d : Dialect} {q : Bool} {f : Field}

theorem lacks_literal {s : String} (h : Lacks d.mark s) : Lacks d.mark (literal ⟨d, q⟩ s) := by
  have hmark : d.mark ≠ Char.ofNat 0x27 := by
    rcases d.mark_eq with h | h <;> rw [h] <;> decide
  exact Text.lacks_quoted hmark h

/-- A column type is the one that the field spells, or one of the dialect with a size. -/
theorem lacks_columnType (h : ∀ text ∈ f.texts, Lacks d.mark text) :
    Lacks d.mark (columnType ⟨d, q⟩ f) := by
  rw [columnType]
  split
  · rename_i sqlType hown
    exact h sqlType (by simp [Field.texts, hown])
  · split
    · rename_i sqlType hreplaced
      split at hreplaced
      · exact Dialect.lacks_autoIncrementType? hreplaced
      · exact nomatch hreplaced
    · rw [domainText]
      dsimp only
      split
      · exact Text.lacks_append.mpr ⟨d.lacks_domain f.type, Field.lacks_sizeText d _ _⟩
      · exact d.lacks_domain f.type

/-- A default is written as a number, a truth value or a literal, or as it is spelled. -/
theorem lacks_defaultLiteral {value : String} (h : Lacks d.mark value) :
    Lacks d.mark (defaultLiteral ⟨d, q⟩ f value) := by
  rw [defaultLiteral]
  split
  · exact lacks_literal h
  · split
    · rw [booleanText]
      split
      · exact d.lacks_clauses _ (by simp [Profile.clauses, profile])
      · exact d.lacks_clauses _ (by simp [Profile.clauses, profile])
    · split <;> exact lacks_of_plain rfl
    · exact lacks_literal h
    · split
      · exact lacks_toString d _
      · exact lacks_literal h
    · exact h

theorem lacks_defaultClause (h : ∀ text ∈ f.texts, Lacks d.mark text) :
    Lacks d.mark (defaultClause ⟨d, q⟩ f) := by
  rw [defaultClause]
  split
  · exact lacks_empty _
  · rename_i s hdefault
    simp only [lacks_concat_cons, lacks_concat_nil, and_true]
    exact ⟨lacks_of_plain rfl, h s (by simp [Field.texts, hdefault, FieldDefault.text])⟩
  · rename_i s hdefault
    simp only [lacks_concat_cons, lacks_concat_nil, and_true]
    have hvalue : Lacks d.mark s := h s (by simp [Field.texts, hdefault, FieldDefault.text])
    exact ⟨lacks_of_plain rfl, lacks_defaultLiteral hvalue⟩

theorem lacks_nullClause : Lacks d.mark (nullClause ⟨d, q⟩ f) := by
  rw [nullClause]
  split
  · exact d.lacks_clauses _ (by simp [Profile.clauses, profile])
  · exact d.lacks_clauses _ (by simp [Profile.clauses, profile])

theorem lacks_autoIncrementClause : Lacks d.mark (autoIncrementClause ⟨d, q⟩ f) := by
  rw [autoIncrementClause]
  split
  · exact d.lacks_clauses _ (by simp [Profile.clauses, profile])
  · exact lacks_empty _

/-- Without quoting, a column has the name of the field as it is and clauses around it. -/
theorem lacks_column (h : ∀ text ∈ f.texts, Lacks d.mark text) :
    Lacks d.mark (column ⟨d, false⟩ f) := by
  have hclauses : ∀ text ∈ [defaultClause ⟨d, false⟩ f, nullClause ⟨d, false⟩ f,
      autoIncrementClause ⟨d, false⟩ f], Lacks d.mark text := by
    simp only [List.forall_mem_cons]
    exact ⟨lacks_defaultClause h, lacks_nullClause, lacks_autoIncrementClause,
      List.forall_mem_nil _⟩
  refine lacks_join (lacks_of_plain rfl) ?_
  simp only [List.forall_mem_cons]
  refine ⟨h f.name (by simp [Field.texts]), lacks_columnType h, fun text htext => ?_⟩
  exact hclauses text (List.mem_filter.mp htext).1

end Platform

-- ── Tables and indices ────────────────────────────────────────────────────────

section Tables

variable {d : Dialect} {q : Bool} {e : Entity}

theorem Entity.lacks_table (h : ∀ text ∈ e.texts, Lacks d.mark text) : Lacks d.mark e.table := by
  rw [table]
  cases hname : e.tableName with
  | none => exact Text.lacks_snake d e.name
  | some name => exact h name (by simp [texts, hname])

/-- Without quoting, a table is named by the texts of its entity, with a dot behind the schema. -/
theorem Platform.lacks_tableName (h : ∀ text ∈ e.texts, Lacks d.mark text) :
    Lacks d.mark (tableName ⟨d, false⟩ e) := by
  have htable := Entity.lacks_table h
  rw [tableName_eq]
  show Lacks d.mark (tableKey ⟨d, false⟩ e)
  rw [tableKey]
  split
  · rw [Entity.fullTable]
    cases hschema : e.schema with
    | none => exact htable
    | some schema =>
        show Lacks d.mark (Text.concat [schema, ".", e.table])
        simp only [lacks_concat_cons, lacks_concat_nil, and_true]
        exact ⟨h schema (by simp [Entity.texts, hschema]), lacks_of_plain rfl, htable⟩
  · exact htable

theorem lacks_columnList {columns : List String} (h : ∀ name ∈ columns, Lacks d.mark name) :
    Lacks d.mark (columnList columns) := by
  simp only [columnList, lacks_concat_cons, lacks_concat_nil, and_true]
  exact ⟨lacks_of_plain rfl, lacks_join (lacks_of_plain rfl) h, lacks_of_plain rfl⟩

/-- The primary key clause lists names of fields. -/
theorem Platform.lacks_primaryKeyClause (h : ∀ text ∈ e.texts, Lacks d.mark text) :
    Lacks d.mark (primaryKeyClause ⟨d, false⟩ e) := by
  have hnames : ∀ name ∈ e.primaryKeyNames.map (identifier ⟨d, false⟩), Lacks d.mark name := by
    intro name hname
    obtain ⟨_, hkey, rfl⟩ := List.mem_map.mp hname
    obtain ⟨f, hf, rfl⟩ := List.mem_map.mp hkey
    exact Entity.lacks_field h (List.mem_filter.mp hf).1 f.name (by simp [Field.texts])
  rw [primaryKeyClause]
  split
  · exact lacks_empty _
  · simp only [lacks_concat_cons, lacks_concat_nil, and_true]
    exact ⟨lacks_of_plain rfl, lacks_join (lacks_of_plain rfl) hnames, lacks_of_plain rfl⟩

theorem lacks_ownDefinitions (h : ∀ text ∈ e.texts, Lacks d.mark text) :
    ∀ text ∈ ownDefinitions ⟨d, false⟩ e, Lacks d.mark text := by
  intro text htext
  rcases List.mem_append.mp htext with hcolumn | hkey
  · obtain ⟨f, hf, rfl⟩ := List.mem_map.mp hcolumn
    exact Platform.lacks_column (Entity.lacks_field h hf)
  · rw [List.mem_singleton.mp (List.mem_filter.mp hkey).1]
    exact Platform.lacks_primaryKeyClause h

theorem lacks_tableBody {definitions : List String} (h : ∀ text ∈ definitions, Lacks d.mark text) :
    Lacks d.mark (tableBody definitions) := by
  rw [tableBody]
  split
  · exact lacks_of_plain rfl
  · simp only [lacks_concat_cons, lacks_concat_nil, and_true]
    exact ⟨lacks_of_plain rfl, lacks_join (lacks_of_plain rfl) h, lacks_of_plain rfl⟩

/-- Only MySQL writes table options, and only there the engine is written. -/
theorem Platform.lacks_tableOptions (h : ∀ text ∈ e.texts, Lacks d.mark text)
    (hengine : ∀ text ∈ d.engine?, Lacks d.mark text) :
    Lacks d.mark (tableOptions ⟨d, q⟩ e) := by
  have hvendor : ∀ name value, (e.vendor.forKind "mysql").option? name = some value →
      Lacks d.mark value := fun name value hvalue =>
    h value (by simp [Entity.texts, VendorBlocks.mem_texts_of_option? hvalue])
  have hkeywords : ∀ option ∈ mysqlOptions, Lacks d.mark option.2 := by
    intro option hoption
    have hplain : mysqlOptions.all (·.2.toList.all Text.isPlain) = true := rfl
    exact lacks_of_plain (List.all_eq_true.mp hplain option hoption)
  rw [tableOptions]
  split
  · rename_i engine hd
    have hd : d = .mysql engine := hd
    refine lacks_join (lacks_of_plain rfl) fun text htext => ?_
    rcases List.mem_append.mp htext with hfirst | hoption
    · rcases List.mem_cons.mp hfirst with rfl | hcomment
      · simp only [lacks_concat_cons, lacks_concat_nil, and_true]
        refine ⟨lacks_of_plain rfl, ?_⟩
        -- the table names an engine of its own, or gets that of the dialect
        cases hown : (e.vendor.forKind "mysql").option? "engine" with
        | none => exact hengine engine (by rw [hd]; rfl)
        | some value => exact hvendor "engine" value hown
      · obtain ⟨s, hs, rfl⟩ := Option.map_eq_some_iff.mp (Option.mem_toList.mp hcomment)
        simp only [lacks_concat_cons, lacks_concat_nil, and_true]
        exact ⟨lacks_of_plain rfl, lacks_literal (h s (by simp [Entity.texts, hs]))⟩
    · obtain ⟨option, hlisted, hwritten⟩ := List.mem_filterMap.mp hoption
      obtain ⟨value, hvalue, rfl⟩ := Option.map_eq_some_iff.mp hwritten
      simp only [lacks_concat_cons, lacks_concat_nil, and_true]
      exact ⟨hkeywords option hlisted, lacks_of_plain rfl,
        lacks_literal (hvendor option.1 value hvalue)⟩
  · exact lacks_empty _

theorem lacks_indexColumn {f : IndexField} (h : Lacks d.mark f.name) :
    Lacks d.mark (indexColumn ⟨d, false⟩ f) := by
  simp only [indexColumn, lacks_concat_cons, lacks_concat_nil, and_true]
  refine ⟨h, ?_⟩
  split
  · exact Field.lacks_sizeText d f.size none
  · exact lacks_empty _

/-- The name of an index is its own, or derived from the table and the names of its fields. -/
theorem Index.lacks_nameOn {index : Index} {table : String}
    (h : ∀ text ∈ index.texts, Lacks d.mark text) (htable : Lacks d.mark table) :
    Lacks d.mark (index.nameOn table) := by
  rw [nameOn]
  cases hname : index.name with
  | some name => exact h name (by simp [texts, hname])
  | none =>
      have hkind : Lacks d.mark (if index.unique then "_u_" else "_i_") := by
        split <;> exact lacks_of_plain rfl
      rw [Option.getD_none, autoName, Text.lacks_append, Text.lacks_append]
      exact ⟨⟨htable, hkind⟩, Text.lacks_shortDigest d _⟩

/-- An index of an entity without marks is written without marks. -/
theorem Index.lacks_render (h : ∀ text ∈ e.texts, Lacks d.mark text) {index : Index}
    (hindex : index ∈ e.indices) : Lacks d.mark (index.render ⟨d, false⟩ e) := by
  have hown := Entity.lacks_index h hindex
  have hcolumns : ∀ text ∈ index.fields.map (indexColumn ⟨d, false⟩), Lacks d.mark text := by
    intro text htext
    obtain ⟨f, hf, rfl⟩ := List.mem_map.mp htext
    have hname : f.name ∈ index.fieldNames := List.mem_map.mpr ⟨f, hf, rfl⟩
    exact lacks_indexColumn (hown f.name (by simp [texts, hname]))
  simp only [render, lacks_concat_cons, lacks_concat_nil, and_true]
  refine ⟨lacks_of_plain rfl, ?_, lacks_of_plain rfl,
    Index.lacks_nameOn hown (Entity.lacks_table h), lacks_of_plain rfl, Platform.lacks_tableName h,
    lacks_of_plain rfl, lacks_columnList hcolumns⟩
  split <;> exact lacks_of_plain rfl

/-- A table is written without marks if its entity, the engine and its foreign keys have none. -/
theorem lacks_createTableText (h : ∀ text ∈ e.texts, Lacks d.mark text)
    (hengine : ∀ text ∈ d.engine?, Lacks d.mark text) {keyTexts : List String}
    (hkeys : ∀ text ∈ keyTexts, Lacks d.mark text) :
    Lacks d.mark (createTableText ⟨d, false⟩ e keyTexts) := by
  have hoptions : Lacks d.mark (behindBlank (Platform.tableOptions ⟨d, false⟩ e)) := by
    rw [behindBlank]
    split
    · exact lacks_empty _
    · simp only [lacks_concat_cons, lacks_concat_nil, and_true]
      exact ⟨lacks_of_plain rfl, Platform.lacks_tableOptions h hengine⟩
  simp only [createTableText, lacks_concat_cons, lacks_concat_nil, and_true]
  exact ⟨lacks_of_plain rfl, Platform.lacks_tableName h, lacks_of_plain rfl,
    lacks_tableBody (List.forall_mem_append.mpr ⟨lacks_ownDefinitions h, hkeys⟩),
    lacks_of_plain rfl, hoptions⟩

theorem lacks_dropTableText (h : ∀ text ∈ e.texts, Lacks d.mark text) (ifExists cascade : Bool) :
    Lacks d.mark (dropTableText ⟨d, false⟩ e ifExists cascade) := by
  simp only [dropTableText, lacks_concat_cons, lacks_concat_nil, and_true]
  refine ⟨lacks_of_plain rfl, ?_, Platform.lacks_tableName h, ?_⟩
  · split <;> exact lacks_of_plain rfl
  · split <;> exact lacks_of_plain rfl

end Tables

-- ── Foreign keys ──────────────────────────────────────────────────────────────

/-- The texts of a foreign key. -/
def ForeignKey.texts (key : ForeignKey) : List String :=
  key.name :: key.columns ++ key.referencedColumns ++ [key.onUpdate.text, key.onDelete.text]

section ForeignKeys

variable {db : Database} {d : Dialect} {r : Relation} {e target : Entity} {key : ForeignKey}

/-- A derived name is made of the owner's table, if there is an owner, and of a digest. -/
theorem Relation.lacks_autoName (h : ∀ text ∈ db.texts, Lacks d.mark text) :
    Lacks d.mark (r.autoName db) := by
  rw [autoName]
  split
  · rename_i owner howner
    have htable := Entity.lacks_table (Database.lacks_entity h (Database.mem_of_entity? howner))
    simp only [lacks_concat_cons, lacks_concat_nil, and_true]
    exact ⟨htable, lacks_of_plain rfl, Text.lacks_shortDigest d _⟩
  · simp only [lacks_concat_cons, lacks_concat_nil, and_true]
    exact ⟨lacks_of_plain rfl, Text.lacks_shortDigest d _⟩

theorem Relation.lacks_nameIn (h : ∀ text ∈ db.texts, Lacks d.mark text)
    (hr : ∀ text ∈ r.texts, Lacks d.mark text) : Lacks d.mark (r.nameIn db) := by
  rw [nameIn]
  cases hname : r.storedName? with
  | none => exact Relation.lacks_autoName h
  | some name => exact hr name (by simp [texts, hname])

/-- The columns of a foreign key are named by fields of the database. -/
theorem ForeignKey.lacks_columns (h : ∀ text ∈ db.texts, Lacks d.mark text)
    (hkey : ofRelation db r = .ok key) :
    (∀ name ∈ key.columns, Lacks d.mark name) ∧
      ∀ name ∈ key.referencedColumns, Lacks d.mark name := by
  obtain ⟨target, ls, fs, ht, hl, hf, -, -, hcolumns, hreferenced⟩ := ofRelation_eq_ok hkey
  obtain ⟨owner, howner⟩ := Relation.owner?_of_localFieldsIn hl
  -- a path may spell a field in two parts, but what is written is the name of the field it leads to
  have hfield : ∀ e ∈ db.entities, ∀ f ∈ e.fields, Lacks d.mark f.name := fun e he f hf =>
    Entity.lacks_field (Database.lacks_entity h he) hf f.name (by simp [Field.texts])
  constructor
  · intro name hname
    rw [hcolumns] at hname
    obtain ⟨pair, hpair, rfl⟩ := List.mem_map.mp hname
    obtain ⟨_, -, hfound⟩ := forall₂_mem_right ((Relation.localFieldsIn_eq_ok howner).mp hl)
      (List.of_mem_zip hpair).1
    exact hfield owner (Database.mem_of_entity? howner) _ (Entity.mem_of_field? hfound)
  · intro name hname
    rw [hreferenced] at hname
    obtain ⟨pair, hpair, rfl⟩ := List.mem_map.mp hname
    obtain ⟨_, -, hpath⟩ := forall₂_mem_right ((Relation.foreignFieldsIn_eq_ok ht).mp hf)
      (List.of_mem_zip hpair).2
    exact hfield target (Relation.mem_of_targetEntity? ht) _ hpath.mem

/-- The names of a foreign key are those of its relation and of fields on both sides. -/
theorem ForeignKey.lacks_texts (h : ∀ text ∈ db.texts, Lacks d.mark text) (hr : r ∈ db.relations)
    (hkey : ofRelation db r = .ok key) : ∀ text ∈ key.texts, Lacks d.mark text := by
  obtain ⟨owner, howner, hrelation⟩ := Database.mem_relations.mp hr
  have hown := Entity.lacks_relation (Database.lacks_entity h howner) hrelation
  obtain ⟨hname, hupdate, hdelete⟩ := written_of_ofRelation hkey
  obtain ⟨hcolumns, hreferenced⟩ := lacks_columns h hkey
  simp only [texts, List.forall_mem_append, List.forall_mem_cons]
  rw [hname, hupdate, hdelete]
  exact ⟨⟨⟨Relation.lacks_nameIn h hown, hcolumns⟩, hreferenced⟩,
    hown r.onUpdate.text (by simp [Relation.texts]),
    hown r.onDelete.text (by simp [Relation.texts]), List.forall_mem_nil _⟩

/-- What happens on an event is written in words of the relation. -/
theorem lacks_actionClause {event : String} {action : ReferentialAction}
    (hevent : Lacks d.mark event) (haction : Lacks d.mark action.text) :
    Lacks d.mark (actionClause event action) := by
  rw [actionClause]
  split
  · exact lacks_empty _
  · simp only [lacks_concat_cons, lacks_concat_nil, and_true]
    exact ⟨lacks_of_plain rfl, hevent, lacks_of_plain rfl, haction⟩

/-- A foreign key without marks, to a target without marks, is written without marks. -/
theorem ForeignKey.lacks_render (hkey : ∀ text ∈ key.texts, Lacks d.mark text)
    (htarget : ∀ text ∈ target.texts, Lacks d.mark text) :
    Lacks d.mark (key.render ⟨d, false⟩ target) := by
  simp only [texts, List.forall_mem_append, List.forall_mem_cons] at hkey
  obtain ⟨⟨⟨hname, hcolumns⟩, hreferenced⟩, hupdate, hdelete, -⟩ := hkey
  -- without quoting, an identifier is written as it is
  have hwritten : ∀ names : List String, names.map (Platform.identifier ⟨d, false⟩) = names :=
    List.map_id
  simp only [render, lacks_concat_cons, lacks_concat_nil, and_true, hwritten]
  exact ⟨lacks_of_plain rfl, hname, lacks_of_plain rfl, lacks_columnList hcolumns,
    lacks_of_plain rfl, Platform.lacks_tableName htarget, lacks_of_plain rfl,
    lacks_columnList hreferenced, lacks_actionClause (lacks_of_plain rfl) hupdate,
    lacks_actionClause (lacks_of_plain rfl) hdelete⟩

theorem lacks_addForeignKeyText (howner : ∀ text ∈ e.texts, Lacks d.mark text)
    (htarget : ∀ text ∈ target.texts, Lacks d.mark text)
    (hkey : ∀ text ∈ key.texts, Lacks d.mark text) :
    Lacks d.mark (addForeignKeyText ⟨d, false⟩ e target key) := by
  simp only [addForeignKeyText, lacks_concat_cons, lacks_concat_nil, and_true]
  exact ⟨lacks_of_plain rfl, Platform.lacks_tableName howner, lacks_of_plain rfl,
    ForeignKey.lacks_render hkey htarget⟩

end ForeignKeys

-- ── Scripts ───────────────────────────────────────────────────────────────────

section Scripts

variable {db : Database} {d : Dialect} {s : Settings} {text : String}

theorem lacks_renderForeignKeys (h : ∀ text ∈ db.texts, Lacks d.mark text) {keys : List ForeignKey}
    (hkeys : ∀ key ∈ keys, ∀ text ∈ key.texts, Lacks d.mark text) {keyTexts : List String}
    (hok : renderForeignKeys db ⟨d, false⟩ keys = .ok keyTexts) :
    ∀ text ∈ keyTexts, Lacks d.mark text := by
  intro text htext
  obtain ⟨key, hkey, target, htarget, rfl⟩ :=
    forall₂_mem_right (renderForeignKeys_eq_ok.mp hok) htext
  exact ForeignKey.lacks_render (hkeys key hkey)
    (Database.lacks_entity h (Database.mem_of_entity? htarget))

/-- A statement is written without marks if the database and the engine have none, whichever of the
    four kinds it is. -/
theorem Statement.lacks_written (h : ∀ text ∈ db.texts, Lacks d.mark text)
    (hengine : ∀ text ∈ d.engine?, Lacks d.mark text) {st : Statement}
    (hkeys : ∀ key ∈ st.foreignKeys, ∀ text ∈ key.texts, Lacks d.mark text)
    (hwritten : Statement.Written db ⟨d, false⟩ st text) : Lacks d.mark text := by
  have hentity : ∀ {id e}, db.entity? id = some e → ∀ text ∈ e.texts, Lacks d.mark text :=
    fun he => Database.lacks_entity h (Database.mem_of_entity? he)
  cases hwritten with
  | createTable he htexts =>
      exact lacks_createTableText (hentity he) hengine (lacks_renderForeignKeys h hkeys htexts)
  | createIndex he hindex =>
      exact Index.lacks_render (hentity he) (List.mem_of_getElem? hindex)
  | dropTable he => exact lacks_dropTableText (hentity he) _ _
  | addForeignKey howner htarget =>
      exact lacks_addForeignKeyText (hentity howner) (hentity htarget)
        (hkeys _ List.mem_cons_self)

theorem Statement.lacks_render (h : ∀ text ∈ db.texts, Lacks d.mark text)
    (hengine : ∀ text ∈ d.engine?, Lacks d.mark text) {st : Statement}
    (hkeys : ∀ key ∈ st.foreignKeys, ∀ text ∈ key.texts, Lacks d.mark text)
    (hok : st.render db ⟨d, false⟩ = .ok text) : Lacks d.mark text := by
  obtain ⟨body, hbody, rfl⟩ := render_eq_ok.mp hok
  simp only [lacks_concat_cons, lacks_concat_nil, and_true]
  exact ⟨Statement.lacks_written h hengine hkeys hbody, lacks_of_plain rfl⟩

namespace Database

/-- What opens and closes a script are clauses of the dialect. -/
theorem lacks_paragraphs {texts : List String} (h : ∀ text ∈ texts, Lacks d.mark text) :
    ∀ text ∈ paragraphs ⟨d, false⟩ texts, Lacks d.mark text := by
  simp only [paragraphs, List.forall_mem_append]
  refine ⟨⟨fun text htext => ?_, h⟩, fun text htext => ?_⟩
  · rw [List.mem_singleton.mp (List.mem_filter.mp htext).1]
    exact d.lacks_clauses _ (by simp [Profile.clauses, Platform.profile])
  · rw [List.mem_singleton.mp (List.mem_filter.mp htext).1]
    exact d.lacks_clauses _ (by simp [Profile.clauses, Platform.profile])

/-- The foreign keys of a script come from relations of the database, and so do their texts. -/
theorem lacks_foreignKeys (h : ∀ text ∈ db.texts, Lacks d.mark text) {p : Platform}
    {stmts : List Statement} (hstmts : db.statements p s = .ok stmts) {st : Statement}
    (hst : st ∈ stmts) : ∀ key ∈ st.foreignKeys, ∀ text ∈ key.texts, Lacks d.mark text := by
  intro key hkey
  obtain ⟨r, hr, hmade⟩ := forall₂_mem_right (foreignKeys_statements hstmts)
    (List.mem_flatMap.mpr ⟨st, hst, hkey⟩)
  obtain ⟨owner, howner, hrelation⟩ := List.mem_flatMap.mp (List.mem_filter.mp hr).1
  exact ForeignKey.lacks_texts h
    (mem_relations.mpr ⟨owner, (mem_emitted.mp howner).1, hrelation⟩) hmade

/-- Without quoting, a script lacks the mark of its dialect, if the texts of the database lack it,
    and so does the engine. -/
theorem lacks_script (h : ∀ text ∈ db.texts, Lacks d.mark text)
    (hengine : ∀ text ∈ d.engine?, Lacks d.mark text) (hok : db.script ⟨d, false⟩ s = .ok text) :
    Lacks d.mark text := by
  obtain ⟨stmts, hstmts, hrendered⟩ := script_eq_ok.mp hok
  obtain ⟨texts, htexts, rfl⟩ := render_eq_ok.mp hrendered
  have hall : ∀ text ∈ texts, Lacks d.mark text := by
    intro text htext
    obtain ⟨st, hst, hrendered⟩ := forall₂_mem_right htexts htext
    exact Statement.lacks_render h hengine (lacks_foreignKeys h hstmts hst) hrendered
  simp only [lacks_concat_cons, lacks_concat_nil, and_true]
  exact ⟨lacks_join (lacks_of_plain rfl) (lacks_paragraphs hall), lacks_of_plain rfl⟩

end Database

end Scripts

end SchemaDdl
