import SchemaDdl.Proofs.Acceptance
import SchemaDdl.Proofs.Casing
import SchemaDdl.Proofs.Loading
import SchemaDdl.Proofs.Quoting
import SchemaDdl.Proofs.Script

/-!
# Names of tables

Entities are kept apart by their names with the schema, but tables are created under other names:
an explicit one or the entity's name in snake_case, and behind the schema only on platforms that
have schemas. Nothing in between asks whether two tables get the same name. So tables are told apart
by what goes into their names, and quoting adds nothing to that.

* **`Text.dot_not_mem_snake`**: snake_case has no dots, so a schema can be told from the name that
  is derived behind it.
* **`Platform.tableKey`**: what goes into the name of a table.
* **`Platform.tableName_eq_iff`**: tables are written alike if and only if their keys are the same.
* **`Database.createdNames_nodup_iff`**: when no table is created twice.
-/

namespace SchemaDdl

namespace Text

-- ── Separators ────────────────────────────────────────────────────────────────

section Separators

variable {sep : Char} {cs piece : List Char}

/-- What stands behind the last separator determines what stands before it. -/
theorem eq_of_append_sep {front front' : List Char} (h : sep ∉ cs) (h' : sep ∉ piece)
    (heq : front ++ sep :: cs = front' ++ sep :: piece) : front = front' ∧ cs = piece := by
  rcases List.append_eq_append_iff.mp heq with ⟨between, hfront, hrest⟩ | ⟨between, hfront, hrest⟩
  · cases between with
    | nil => exact ⟨by rw [hfront, List.append_nil], (List.cons.inj hrest).2⟩
    | cons c between =>
        obtain ⟨-, rfl⟩ := List.cons.inj hrest
        exact absurd (List.mem_append_right between List.mem_cons_self) h
  · cases between with
    | nil => exact ⟨by rw [hfront, List.append_nil], (List.cons.inj hrest).2.symm⟩
    | cons c between =>
        obtain ⟨-, rfl⟩ := List.cons.inj hrest
        exact absurd (List.mem_append_right between List.mem_cons_self) h'

end Separators

-- ── Characters before the small letters ───────────────────────────────────────

/-- Lower-casing gives a character before the small letters for that character only. -/
theorem eq_of_mem_lowerChar {c d : Char} (hc : c.toNat < 0x61) (h : c ∈ lowerChar d) : d = c := by
  rw [lowerChar] at h
  split at h
  · rename_i hascii
    have hd := List.mem_singleton.mp h
    by_cases hupper : d.isUpper = true
    · have hfirst : 0x41 ≤ d.toNat := by
        simp only [Char.isUpper, decide_eq_true_eq] at hupper
        exact UInt32.le_iff_toNat_le.mp hupper.1
      have hvalid : (d.toNat + 32).isValidChar := Or.inl (by omega)
      rw [Char.toLower_eq_of_isUpper hupper] at hd
      rw [hd, Char.toNat_ofNat, if_pos hvalid] at hc
      omega
    · rw [hd, Char.toLower_eq_of_not_isUpper hupper]
  · split at h
    · rcases List.mem_pair.mp h with rfl | rfl
      · exact absurd hc (by decide)
      · exact absurd hc (by decide +kernel)
    · rw [List.mem_singleton, shifted?] at h
      cases hfound : lowerShifts.findSome? (·.image? d.toNat) with
      | none =>
          rw [hfound] at h
          exact h.symm
      | some m =>
          obtain ⟨s, hs, hm⟩ := List.exists_of_findSome?_eq_some hfound
          obtain ⟨hnat, hbeyond⟩ := toNat_image hs hm
          rw [hfound] at h
          have himage : c = Char.ofNat m := h
          rw [himage, hnat] at hc
          omega

/-- Lower-casing makes no characters before the small letters: one that is in the result was in the
    word. -/
theorem mem_of_mem_lowerWord {c : Char} (hc : c.toNat < 0x61) {w : List Char}
    (h : c ∈ lowerWord w) : c ∈ w := by
  induction w with
  | nil => exact h
  | cons d ds ih =>
      cases ds with
      | nil =>
          rw [lowerWord] at h
          split at h
          · have hsigma : 0x61 ≤ finalSigma.toNat := by decide
            rw [List.mem_singleton.mp h] at hc
            exact absurd hc (Nat.not_lt.mpr hsigma)
          · rw [eq_of_mem_lowerChar hc h]
            exact List.mem_cons_self
      | cons d' ds =>
          rw [lowerWord.eq_3 d (d' :: ds) nofun] at h
          rcases List.mem_append.mp h with hfirst | hrest
          · rw [eq_of_mem_lowerChar hc hfirst]
            exact List.mem_cons_self
          · exact List.mem_cons_of_mem d (ih hrest)

/-- Runs are made of letters and digits. -/
theorem isAlphanumeric_of_mem_runs {cs r : List Char} (h : r ∈ runs cs) {c : Char} (hc : c ∈ r) :
    isAlphanumeric c = true := by
  induction cs generalizing r with
  | nil =>
      rw [List.mem_singleton.mp h] at hc
      exact nomatch hc
  | cons d cs ih =>
      rw [runs] at h
      split at h
      · rename_i hd
        split at h
        · rw [List.mem_singleton.mp h, List.mem_singleton] at hc
          rw [hc]
          exact hd
        · rename_i r' rs hruns
          rcases List.mem_cons.mp h with rfl | h
          · rcases List.mem_cons.mp hc with rfl | hc
            · exact hd
            · exact ih (hruns ▸ List.mem_cons_self) hc
          · exact ih (hruns ▸ List.mem_cons_of_mem r' h) hc
      · rcases List.mem_cons.mp h with rfl | h
        · exact nomatch hc
        · exact ih h hc

/-- Cutting a run into words adds no characters. -/
theorem mem_of_mem_runWords {mode : LetterCase} {word cs w : List Char}
    (h : w ∈ runWords mode word cs) {c : Char} (hc : c ∈ w) : c ∈ word ∨ c ∈ cs := by
  induction mode, word, cs using runWords.induct with
  | case1 mode word hempty =>
      rw [runWords, if_pos hempty] at h
      exact nomatch h
  | case2 mode word hopen =>
      rw [runWords, if_neg hopen] at h
      rw [List.mem_singleton.mp h, List.mem_reverse] at hc
      exact Or.inl hc
  | case3 mode word d =>
      rw [runWords, List.mem_singleton] at h
      rw [h, List.mem_reverse] at hc
      exact (List.mem_cons.mp hc).symm.imp_right List.mem_singleton.mpr
  | case4 mode word d next cs hends ih =>
      rw [runWords, if_pos hends] at h
      rcases List.mem_cons.mp h with rfl | h
      · rw [List.mem_reverse] at hc
        exact (List.mem_cons.mp hc).symm.imp_right fun heq => List.mem_cons.mpr (.inl heq)
      · exact Or.inr (List.mem_cons_of_mem d ((ih h).resolve_left List.not_mem_nil))
  | case5 mode word d next cs hgoes hends ih =>
      rw [runWords, if_neg hgoes, if_pos hends] at h
      rcases List.mem_cons.mp h with rfl | h
      · exact Or.inl (List.mem_reverse.mp hc)
      · rcases ih h with hfirst | hrest
        · rw [List.mem_singleton.mp hfirst]
          exact Or.inr List.mem_cons_self
        · exact Or.inr (List.mem_cons_of_mem d hrest)
  | case6 mode word d next cs hgoes hgoes' ih =>
      rw [runWords, if_neg hgoes, if_neg hgoes'] at h
      rcases ih h with hfirst | hrest
      · exact (List.mem_cons.mp hfirst).symm.imp_right fun heq => List.mem_cons.mpr (.inl heq)
      · exact Or.inr (List.mem_cons_of_mem d hrest)

/-- Words are made of letters and digits. -/
theorem isAlphanumeric_of_mem_words {cs w : List Char} (h : w ∈ words cs) {c : Char}
    (hc : c ∈ w) : isAlphanumeric c = true := by
  obtain ⟨r, hr, hw⟩ := List.mem_flatMap.mp h
  exact isAlphanumeric_of_mem_runs hr ((mem_of_mem_runWords hw hc).resolve_left List.not_mem_nil)

/-- A character of joined parts is the separator or comes from a part. -/
theorem mem_intercalate {sep : Char} {parts : List (List Char)} {c : Char}
    (h : c ∈ [sep].intercalate parts) : c = sep ∨ ∃ part ∈ parts, c ∈ part := by
  induction parts with
  | nil => exact nomatch h
  | cons part parts ih =>
      cases parts with
      | nil => exact Or.inr ⟨part, List.mem_cons_self, by simpa [List.intercalate] using h⟩
      | cons next parts =>
          have hparts : c ∈ part ++ sep :: [sep].intercalate (next :: parts) := h
          rcases List.mem_append.mp hparts with hfirst | hrest
          · exact Or.inr ⟨part, List.mem_cons_self, hfirst⟩
          · rcases List.mem_cons.mp hrest with hsep | hrest
            · exact Or.inl hsep
            · refine (ih hrest).imp_right fun ⟨part', hpart', hc⟩ => ?_
              exact ⟨part', List.mem_cons_of_mem part hpart', hc⟩

/-- Of the characters before the small letters, a name in snake_case has digits and underscores
    only. -/
theorem not_mem_snake {c : Char} (hc : c.toNat < 0x61) (hline : c ≠ '_')
    (hletter : isAlphanumeric c = false) (s : String) : c ∉ (snake s).toList := by
  intro h
  rw [snake, String.toList_ofList] at h
  rcases mem_intercalate h with hsep | ⟨part, hpart, hmem⟩
  · exact hline hsep
  · obtain ⟨w, hw, rfl⟩ := List.mem_map.mp hpart
    have htrue := isAlphanumeric_of_mem_words hw (mem_of_mem_lowerWord hc hmem)
    rw [hletter] at htrue
    exact nomatch htrue

/-- A name in snake_case has no dots. -/
theorem dot_not_mem_snake (s : String) : '.' ∉ (snake s).toList :=
  not_mem_snake (by decide) (by decide) (by decide +kernel) s

end Text

-- ── Keys of tables ────────────────────────────────────────────────────────────

namespace Entity

/-- Behind a schema, a name without dots can be told from the schema. -/
theorem qualified_eq_iff {schema schema' : Option String} {name name' : String}
    (h : '.' ∉ name.toList) (h' : '.' ∉ name'.toList) :
    qualified schema name = qualified schema' name' ↔ name = name' ∧ schema = schema' := by
  have hlist : ∀ schema name, (qualified (some schema) name).toList =
      schema.toList ++ '.' :: name.toList := fun schema name => by simp [qualified, Text.concat]
  constructor
  · intro heq
    have hchars := congrArg String.toList heq
    cases schema with
    | none =>
        cases schema' with
        | none => exact ⟨heq, rfl⟩
        | some schema' =>
            rw [hlist] at hchars
            exact absurd (hchars ▸ List.mem_append_right _ List.mem_cons_self) h
    | some schema =>
        cases schema' with
        | none =>
            rw [hlist] at hchars
            exact absurd (hchars ▸ List.mem_append_right _ List.mem_cons_self) h'
        | some schema' =>
            rw [hlist, hlist] at hchars
            obtain ⟨hschema, hname⟩ := Text.eq_of_append_sep h h' hchars
            exact ⟨String.toList_injective hname, congrArg some (String.toList_injective hschema)⟩
  · rintro ⟨rfl, rfl⟩
    rfl

theorem table_of_derived {e : Entity} (h : e.tableName = none) : e.table = Text.snake e.name := by
  rw [table, h]
  rfl

end Entity

namespace Platform

variable {p : Platform} {e e' : Entity}

/-- What goes into the name of an entity's table. -/
def tableKey (p : Platform) (e : Entity) : String :=
  if p.profile.hasSchemas then e.fullTable else e.table

/-- A part between dots is an identifier of one part. -/
theorem split_of_mem_split {s part : String} (h : part ∈ Text.split schemaDelimiter s) :
    Text.split schemaDelimiter part = [part] := by
  have hdelimiter : schemaDelimiter = String.singleton '.' := rfl
  rw [hdelimiter, Text.split_singleton] at h ⊢
  obtain ⟨piece, hpiece, rfl⟩ := List.mem_map.mp h
  rw [String.toList_ofList, Text.pieces_of_not_mem (Text.not_mem_of_mem_pieces hpiece)]
  rfl

/-- A name is written as an identifier, whether or not it is taken apart for it. -/
theorem qualifiedName_split (p : Platform) (s : String) :
    p.qualifiedName (.split s schemaDelimiter) = p.identifier s := by
  have hparts : ∀ part ∈ Text.split schemaDelimiter s,
      p.identifier part = if p.quoting then p.marked part else part := by
    intro part hpart
    rw [identifier, split_of_mem_split hpart]
    rfl
  show Text.join schemaDelimiter ((Text.split schemaDelimiter s).map p.identifier) = _
  rw [List.map_congr_left hparts, identifier]
  split
  · rfl
  · rw [List.map_id', join_split_delimiter]

/-- Tables are written as identifiers of their keys. -/
theorem tableName_eq (p : Platform) (e : Entity) : p.tableName e = p.identifier (p.tableKey e) := by
  rw [tableName, tableNameParts, tableKey]
  split
  · exact p.qualifiedName_split e.fullTable
  · rfl

/-- Tables are written alike if and only if their keys are the same. -/
theorem tableName_eq_iff : p.tableName e = p.tableName e' ↔ p.tableKey e = p.tableKey e' := by
  rw [tableName_eq, tableName_eq]
  exact p.identifier_injective.eq_iff

/-- Where both names are derived, tables have the same key if and only if the names are the same in
    snake_case, and the schemas are the same or the platform has none. -/
theorem tableKey_eq_iff (h : e.tableName = none) (h' : e'.tableName = none) :
    p.tableKey e = p.tableKey e' ↔ Text.snake e.name = Text.snake e'.name ∧
      (p.profile.hasSchemas = true → e.schema = e'.schema) := by
  rw [tableKey, tableKey]
  split
  · rename_i hschemas
    rw [Entity.fullTable, Entity.fullTable, Entity.table_of_derived h, Entity.table_of_derived h',
      Entity.qualified_eq_iff (Text.dot_not_mem_snake _) (Text.dot_not_mem_snake _)]
    exact and_congr_right fun _ => (imp_iff_right hschemas).symm
  · rename_i hflat
    rw [Entity.table_of_derived h, Entity.table_of_derived h']
    exact (and_iff_left fun hschemas => absurd hschemas hflat).symm

end Platform

-- ── Created tables ────────────────────────────────────────────────────────────

/-- The name under which a statement creates a table. -/
def Statement.createdName? (db : Database) (p : Platform) (st : Statement) : Option String :=
  (st.created?.bind db.entity?).map p.tableName

/-- The name is what stands in the text of the statement. -/
theorem Statement.render_of_createdName? {db : Database} {p : Platform} {st : Statement}
    {name text : String} (hname : st.createdName? db p = some name)
    (htext : st.render db p = .ok text) :
    ∃ rest, text = Text.concat ["CREATE TABLE ", name, " (", rest] := by
  obtain ⟨body, hbody, rfl⟩ := render_eq_ok.mp htext
  cases hbody with
  | createTable he htexts =>
      rename_i e texts
      have hfound : some (p.tableName e) = some name := by
        rw [← hname, createdName?, created?, Option.bind_some, he, Option.map_some]
      rw [← Option.some.inj hfound]
      refine ⟨Text.concat [tableBody (ownDefinitions p e ++ texts), ")",
        behindBlank (p.tableOptions e), ";"], ?_⟩
      simp [createTableText, Text.concat, String.append_assoc]
  | createIndex _ _ => cases hname
  | dropTable _ => cases hname
  | addForeignKey _ _ => cases hname

namespace Database

variable {db d : Database} {p : Platform} {s : Settings} {stmts : List Statement}

/-- Statements create a table for every emitted entity, under its name. -/
theorem createdNames_statements (hp : db.Placed) (h : db.statements p s = .ok stmts) :
    stmts.filterMap (·.createdName? db p) = db.emitted.map p.tableName := by
  have hfound : ∀ e ∈ db.emitted, (db.entity? e.id).map p.tableName = some (p.tableName e) :=
    fun e he => by rw [hp.entity?_id (mem_emitted.mp he).1]; rfl
  calc stmts.filterMap (·.createdName? db p)
      = (stmts.filterMap Statement.created?).filterMap fun id =>
          (db.entity? id).map p.tableName := by
        rw [List.filterMap_filterMap]
        exact List.filterMap_congr fun st _ => Option.map_bind
    _ = db.emitted.filterMap fun e => (db.entity? e.id).map p.tableName := by
        rw [created_statements h, List.filterMap_map]
        rfl
    _ = db.emitted.map p.tableName := by
        rw [List.filterMap_congr hfound]
        exact congrFun List.filterMap_eq_map _

/-- Finalizing leaves every id at its place. -/
theorem Placed.finalize (hp : db.Placed) (hok : db.finalize p = (d, .ok ())) : d.Placed := by
  obtain ⟨-, mid, hgrows, -, rfl⟩ := finalize_eq_ok hp hok
  exact (hgrows.placed (hp.mapRelations fun _ => rfl)).allNamed.of_entities_eq rfl

/-- Finalizing changes neither which tables are created nor their names. -/
theorem tableNames_final (hp : db.Placed) (hok : db.finalize p = (d, .ok ())) :
    d.emitted.map p.tableName = db.emitted.map p.tableName := by
  have hgrows : ∀ e : Entity, (e.mapRelations (·.boundIn db)).Grows
      ((e.mapRelations (·.boundIn db)).normalizedIn p db.allBound) :=
    fun e => (e.mapRelations (·.boundIn db)).normalizedIn_grows p db.allBound
  rw [finalize_eq_finalForm hp hok, emitted, entities_finalForm, List.filter_map, List.map_map]
  have hskip : ∀ e ∈ db.entities, (!((e.mapRelations (·.boundIn db)).normalizedIn p
      db.allBound).skipSql) = !e.skipSql :=
    fun e _ => congrArg not (congrArg Entity.skipSql (hgrows e).rest :)
  refine (congrArg _ (List.filter_congr hskip)).trans (List.map_congr_left fun e _ => ?_)
  exact (congrArg p.tableName (hgrows e).rest :)

/-- When no table is created twice. The statements of a loaded and finalized database create a table
    for every entity that is not skipped, under its name, which is what their texts begin with.
    These names are all different if and only if the keys of the tables are. Where two table names
    are derived, the keys are the same if and only if the names of the entities are the same in
    snake_case, and the schemas are the same or the platform has none. -/
theorem createdNames_nodup_iff {v : Json} (hload : Document.load v = .ok db)
    (hok : db.finalize p = (d, .ok ())) (hstmts : d.statements p s = .ok stmts) :
    (stmts.filterMap (·.createdName? d p) = db.emitted.map p.tableName ∧
      ∀ st ∈ stmts, ∀ name text, st.createdName? d p = some name → st.render d p = .ok text →
        ∃ rest, text = Text.concat ["CREATE TABLE ", name, " (", rest]) ∧
    ((stmts.filterMap (·.createdName? d p)).Nodup ↔
      db.emitted.Pairwise fun e e' => p.tableKey e ≠ p.tableKey e') ∧
    ∀ e ∈ db.emitted, ∀ e' ∈ db.emitted, e.tableName = none → e'.tableName = none →
      (p.tableKey e = p.tableKey e' ↔ Text.snake e.name = Text.snake e'.name ∧
        (p.profile.hasSchemas = true → e.schema = e'.schema)) := by
  have hp : db.Placed := (Document.reachable_of_load hload).sound.placed
  have hnames : stmts.filterMap (·.createdName? d p) = db.emitted.map p.tableName :=
    (createdNames_statements (hp.finalize hok) hstmts).trans (tableNames_final hp hok)
  refine ⟨⟨hnames, fun st _ name text => Statement.render_of_createdName?⟩, ?_,
    fun e _ e' _ => Platform.tableKey_eq_iff⟩
  rw [hnames, List.nodup_iff_pairwise_ne, List.pairwise_map]
  exact List.Pairwise.iff fun _ _ => not_congr Platform.tableName_eq_iff

-- ── One name in two schemas ───────────────────────────────────────────────────

/-- Two entities of one name, each in a schema of its own. -/
def accounts : Json :=
  .object [("name", .text "bank"), ("entities", .array [
    .object [("name", .text "account"), ("schema", .text "billing"),
      ("fields", .array [.object [("name", .text "id")]])],
    .object [("name", .text "account"), ("schema", .text "crm"),
      ("fields", .array [.object [("name", .text "id")]])]])]

/-- Whether a document leads to statements that create tables under given names. -/
def creates (v : Json) (p : Platform) (s : Settings) (names : List String) : Bool :=
  match Document.load v with
  | .error _ => false
  | .ok db =>
    match db.finalize p with
    | (_, .error _) => false
    | (d, .ok _) =>
      match d.statements p s with
      | .error _ => false
      | .ok stmts => stmts.filterMap (·.createdName? d p) == names

/-- A document that passes this test is loaded and finalized and has statements, and the tables that
    they create have the names that were asked for. -/
theorem exists_of_creates {v : Json} {names : List String} (h : creates v p s names = true) :
    ∃ db d stmts, Document.load v = .ok db ∧ db.finalize p = (d, .ok ()) ∧
      d.statements p s = .ok stmts ∧ stmts.filterMap (·.createdName? d p) = names := by
  rw [creates] at h
  split at h
  · exact nomatch h
  · rename_i db hload
    split at h
    · exact nomatch h
    · rename_i d _ hok
      split at h
      · exact nomatch h
      · rename_i stmts hstmts
        exact ⟨db, d, stmts, hload, hok, hstmts, eq_of_beq h⟩

/-- MySQL writes the schemas, so the accounts are two tables there. -/
theorem createdNames_nodup_iff_accounts :
    ∃ db d stmts, Document.load accounts = .ok db ∧
      db.finalize ⟨.mysql "InnoDB", false⟩ = (d, .ok ()) ∧
      d.statements ⟨.mysql "InnoDB", false⟩ .standard = .ok stmts ∧
      db.emitted.map (Platform.tableName ⟨.mysql "InnoDB", false⟩) =
        ["billing.account", "crm.account"] ∧
      db.emitted.Pairwise fun e e' =>
        Platform.tableKey ⟨.mysql "InnoDB", false⟩ e ≠
          Platform.tableKey ⟨.mysql "InnoDB", false⟩ e' := by
  obtain ⟨db, d, stmts, hload, hok, hstmts, hnames⟩ := exists_of_creates
    (by decide +kernel : creates accounts ⟨.mysql "InnoDB", false⟩ .standard
      ["billing.account", "crm.account"] = true)
  obtain ⟨⟨hcreated, -⟩, hnodup, -⟩ := createdNames_nodup_iff hload hok hstmts
  refine ⟨db, d, stmts, hload, hok, hstmts, hcreated.symm.trans hnames, hnodup.mp ?_⟩
  rw [hnames]
  decide

/-- The generic platform drops the schemas, and so it creates one table twice. -/
theorem createdNames_repeated :
    ¬ ∀ (v : Json) (db d : Database) (p : Platform) (s : Settings) (stmts : List Statement),
      Document.load v = .ok db → db.finalize p = (d, .ok ()) → d.statements p s = .ok stmts →
      (stmts.filterMap (·.createdName? d p)).Nodup := by
  intro h
  obtain ⟨db, d, stmts, hload, hok, hstmts, hnames⟩ := exists_of_creates
    (by decide +kernel : creates accounts ⟨.generic, false⟩ .standard
      ["account", "account"] = true)
  have hnodup := h accounts db d ⟨.generic, false⟩ .standard stmts hload hok hstmts
  rw [hnames] at hnodup
  exact absurd hnodup (by decide)

end Database

end SchemaDdl
