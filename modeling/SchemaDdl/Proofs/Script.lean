import SchemaDdl.Ddl.Render
import SchemaDdl.Proofs.ForeignKeys
import SchemaDdl.Proofs.Reachability

/-!
# Scripts

What the statements of a finalized database are, said without the functions that make them: which
tables are created and in which order, that there is one foreign key for each relation that gets
one, that both of its ends are created, and that nothing in the list leads nowhere when it is
written out.

* **`Database.Script`**: a list of statements is the script of a database.
* **`Statement.Written`**: what a statement is written as, by its kind.
* **`Database.render_eq_ok`**, **`Database.script_eq_ok`**: the parts of a script that is rendered.
* **`Statement.Grounded`**, **`Database.render_of_grounded`**: statements that name only what is
  there are rendered.

The main result is that the statements of a finalized database are its script, and that they are
rendered on every platform.
-/

namespace SchemaDdl

namespace Statement

/-- The table that a statement creates. -/
def created? : Statement → Option EntityId
  | .createTable id _ => some id
  | _ => none

/-- The table that a statement is about. -/
def table : Statement → EntityId
  | .createTable id _ => id
  | .createIndex id _ => id
  | .dropTable id _ _ => id
  | .addForeignKey key => key.table

/-- The foreign keys that a statement makes. -/
def foreignKeys : Statement → List ForeignKey
  | .createTable _ keys => keys
  | .addForeignKey key => [key]
  | _ => []

/-- Whatever a statement names by position is there. -/
def Grounded (db : Database) : Statement → Prop
  | .createTable id keys =>
    (∃ e, db.entity? id = some e) ∧ ∀ key ∈ keys, ∃ t, db.entity? key.references = some t
  | .createIndex id position =>
    ∃ e index, db.entity? id = some e ∧ e.indices[position]? = some index
  | .dropTable id _ _ => ∃ e, db.entity? id = some e
  | .addForeignKey key =>
    (∃ e, db.entity? key.table = some e) ∧ ∃ t, db.entity? key.references = some t

end Statement

/-- A list of statements is the script of a database. -/
structure Database.Script (db : Database) (stmts : List Statement) : Prop where
  /-- Old tables are dropped first. Then each emitted entity gets its table, with its indices right
      behind it. Foreign keys stand either in the tables or at the end. -/
  layout : ∃ (drops : List Statement) (tables : List (Entity × List ForeignKey))
    (added : List ForeignKey),
    stmts = drops ++ (tables.flatMap fun t => .createTable t.1.id t.2 ::
      (List.range t.1.indices.length).map (.createIndex t.1.id)) ++ added.map .addForeignKey ∧
    (∀ st ∈ drops, ∃ id ifExists cascade, st = .dropTable id ifExists cascade) ∧
    tables.map Prod.fst = db.emitted ∧ ((∀ t ∈ tables, t.2 = []) ∨ added = [])
  created : stmts.filterMap Statement.created? = db.emitted.map (·.id)
  once : (stmts.filterMap Statement.created?).Nodup
  skipped : ∀ e ∈ db.entities, e.skipSql = true → ∀ st ∈ stmts, st.table ≠ e.id
  /-- There is one foreign key for each relation that gets one, in order, and no other. -/
  keys : List.Forall₂ (fun r key => ∃ owner ∈ db.emitted, ∃ target ∈ db.emitted,
      r ∈ owner.relations ∧ r.targetEntity? db = some target ∧ key.Joins r owner target)
    db.constrained (stmts.flatMap Statement.foreignKeys)
  inside : ∀ st ∈ stmts, ∀ key ∈ st.foreignKeys, key.table = st.table
  ends : ∀ key ∈ stmts.flatMap Statement.foreignKeys,
    key.table ∈ stmts.filterMap Statement.created? ∧
      key.references ∈ stmts.filterMap Statement.created?

-- ── Rendering ─────────────────────────────────────────────────────────────────

section Rendering

variable {db : Database} {p : Platform}

/-- Looking an entity up by its place fails only where none stands. -/
theorem Database.entityAt_eq_ok {id : EntityId} {e : Entity} :
    db.entityAt id = .ok e ↔ db.entity? id = some e := by
  rw [entityAt]
  cases db.entity? id with
  | none => simp
  | some e' => simp

/-- Foreign keys are rendered one by one, each with the table that it references. -/
theorem renderForeignKeys_eq_ok {keys : List ForeignKey} {texts : List String} :
    renderForeignKeys db p keys = .ok texts ↔ List.Forall₂ (fun key text =>
      ∃ t, db.entity? key.references = some t ∧ text = key.render p t) keys texts := by
  induction keys generalizing texts with
  | nil => simp [renderForeignKeys, eq_comm]
  | cons key keys ih =>
      rw [renderForeignKeys, List.forall₂_cons_left_iff]
      constructor
      · intro h
        cases ht : db.entityAt key.references with
        | error m => simp [ht] at h
        | ok t =>
            cases hrest : renderForeignKeys db p keys with
            | error m => simp [ht, hrest] at h
            | ok rest =>
                simp only [ht, hrest] at h
                injection h with h
                exact ⟨key.render p t, rest, ⟨t, Database.entityAt_eq_ok.mp ht, rfl⟩, ih.mp hrest,
                  h.symm⟩
      · rintro ⟨_, rest, ⟨t, ht, rfl⟩, hrest, rfl⟩
        rw [Database.entityAt_eq_ok.mpr ht, ih.mpr hrest]

/-- Foreign keys between entities that are there can all be rendered. -/
theorem renderForeignKeys_of_grounded {keys : List ForeignKey}
    (h : ∀ key ∈ keys, ∃ t, db.entity? key.references = some t) :
    ∃ texts, renderForeignKeys db p keys = .ok texts := by
  simp only [renderForeignKeys_eq_ok]
  induction keys with
  | nil => exact ⟨[], .nil⟩
  | cons key keys ih =>
      obtain ⟨t, ht⟩ := h key List.mem_cons_self
      obtain ⟨texts, htexts⟩ := ih fun key' hkey' => h key' (List.mem_cons_of_mem key hkey')
      exact ⟨key.render p t :: texts, .cons ⟨t, ht, rfl⟩ htexts⟩

/-- What a statement is written as, without its semicolon. -/
inductive Statement.Written (db : Database) (p : Platform) : Statement → String → Prop where
  | createTable {id : EntityId} {keys : List ForeignKey} {e : Entity} {texts : List String} :
      db.entity? id = some e → renderForeignKeys db p keys = .ok texts →
      Written db p (.createTable id keys) (createTableText p e texts)
  | createIndex {id : EntityId} {position : Nat} {e : Entity} {index : Index} :
      db.entity? id = some e → e.indices[position]? = some index →
      Written db p (.createIndex id position) (index.render p e)
  | dropTable {id : EntityId} {ifExists cascade : Bool} {e : Entity} :
      db.entity? id = some e →
      Written db p (.dropTable id ifExists cascade) (dropTableText p e ifExists cascade)
  | addForeignKey {key : ForeignKey} {owner target : Entity} :
      db.entity? key.table = some owner → db.entity? key.references = some target →
      Written db p (.addForeignKey key) (addForeignKeyText p owner target key)

/-- The body of a statement that has one is written in one of the four ways, for entities and
    indices that are there. -/
theorem Statement.written_of_body {st : Statement} {text : String} (h : st.body db p = .ok text) :
    Statement.Written db p st text := by
  cases st with
  | createTable id keys =>
      rw [body] at h
      cases he : db.entityAt id with
      | error m => simp [he] at h
      | ok e =>
          cases htexts : renderForeignKeys db p keys with
          | error m => simp [he, htexts] at h
          | ok texts =>
              simp only [he, htexts] at h
              injection h with h
              exact h ▸ .createTable (Database.entityAt_eq_ok.mp he) htexts
  | createIndex id position =>
      rw [body] at h
      cases he : db.entityAt id with
      | error m => simp [he] at h
      | ok e =>
          cases hindex : e.indices[position]? with
          | none => simp [he, hindex] at h
          | some index =>
              simp only [he, hindex] at h
              injection h with h
              exact h ▸ .createIndex (Database.entityAt_eq_ok.mp he) hindex
  | dropTable id ifExists cascade =>
      rw [body] at h
      cases he : db.entityAt id with
      | error m => simp [he] at h
      | ok e =>
          simp only [he] at h
          injection h with h
          exact h ▸ .dropTable (Database.entityAt_eq_ok.mp he)
  | addForeignKey key =>
      rw [body] at h
      cases howner : db.entityAt key.table with
      | error m => simp [howner] at h
      | ok owner =>
          cases htarget : db.entityAt key.references with
          | error m => simp [howner, htarget] at h
          | ok target =>
              simp only [howner, htarget] at h
              injection h with h
              exact h ▸ .addForeignKey (Database.entityAt_eq_ok.mp howner)
                (Database.entityAt_eq_ok.mp htarget)

/-- Rendering the body of a statement and describing how it is written come to the same. The body
    fails just where the description says nothing: when an entity or an index is missing. -/
theorem Statement.body_eq_ok {st : Statement} {text : String} :
    st.body db p = .ok text ↔ Statement.Written db p st text := by
  refine ⟨written_of_body, fun h => ?_⟩
  cases h with
  | createTable he htexts => simp only [body, Database.entityAt_eq_ok.mpr he, htexts]
  | createIndex he hindex => simp only [body, Database.entityAt_eq_ok.mpr he, hindex]
  | dropTable he => simp only [body, Database.entityAt_eq_ok.mpr he]
  | addForeignKey howner htarget =>
      simp only [body, Database.entityAt_eq_ok.mpr howner, Database.entityAt_eq_ok.mpr htarget]

/-- A statement that is rendered is written with a semicolon behind it. -/
theorem Statement.render_eq_ok {st : Statement} {text : String} :
    st.render db p = .ok text ↔
      ∃ body, Statement.Written db p st body ∧ text = Text.concat [body, ";"] := by
  simp only [← body_eq_ok]
  rw [render]
  cases st.body db p with
  | error m => exact iff_of_false nofun fun ⟨_, hbody, _⟩ => nomatch hbody
  | ok body =>
      constructor
      · intro h
        injection h with h
        exact ⟨body, rfl, h.symm⟩
      · rintro ⟨_, hbody, rfl⟩
        injection hbody with hbody
        rw [hbody]
        rfl

/-- A list of statements is rendered statement by statement, and the texts are put in paragraphs. -/
theorem Database.render_eq_ok {stmts : List Statement} {text : String} :
    db.render p stmts = .ok text ↔
      ∃ texts, List.Forall₂ (fun st text => st.render db p = .ok text) stmts texts ∧
        text = Text.concat [Text.join "\n\n" (Database.paragraphs p texts), "\n"] := by
  simp only [← mapM_eq_ok]
  rw [Database.render]
  cases stmts.mapM (·.render db p) with
  | error m =>
      constructor
      · intro h
        cases h
      · rintro ⟨_, htexts, -⟩
        cases htexts
  | ok texts =>
      constructor
      · intro h
        injection h with h
        exact ⟨texts, rfl, h.symm⟩
      · rintro ⟨_, htexts, rfl⟩
        injection htexts with htexts
        rw [htexts]

/-- A script consists of the statements of the database. -/
theorem Database.script_eq_ok {s : Settings} {text : String} :
    db.script p s = .ok text ↔
      ∃ stmts, db.statements p s = .ok stmts ∧ db.render p stmts = .ok text := by
  rw [Database.script]
  cases db.statements p s with
  | error e =>
      constructor
      · intro h
        cases h
      · rintro ⟨_, hstmts, -⟩
        cases hstmts
  | ok stmts =>
      constructor
      · intro h
        refine ⟨stmts, rfl, ?_⟩
        cases htext : db.render p stmts with
        | error m => simp [htext] at h
        | ok text' => simpa [htext] using h
      · rintro ⟨_, hstmts, htext⟩
        injection hstmts with hstmts
        subst hstmts
        simp only [htext]

/-- A statement that names only what is there is rendered. -/
theorem Statement.render_of_grounded {st : Statement} (h : st.Grounded db) :
    ∃ text, st.render db p = .ok text := by
  have hwritten : ∃ body, Statement.Written db p st body := by
    cases st with
    | createTable id keys =>
        obtain ⟨⟨e, he⟩, hkeys⟩ := h
        obtain ⟨texts, htexts⟩ := renderForeignKeys_of_grounded (p := p) hkeys
        exact ⟨_, .createTable he htexts⟩
    | createIndex id position =>
        obtain ⟨e, index, he, hindex⟩ := h
        exact ⟨_, .createIndex he hindex⟩
    | dropTable id ifExists cascade =>
        obtain ⟨e, he⟩ := h
        exact ⟨_, .dropTable he⟩
    | addForeignKey key =>
        obtain ⟨⟨e, he⟩, t, ht⟩ := h
        exact ⟨_, .addForeignKey he ht⟩
  obtain ⟨body, hbody⟩ := hwritten
  exact ⟨Text.concat [body, ";"], render_eq_ok.mpr ⟨body, hbody, rfl⟩⟩

/-- Statements that name only what is there are rendered. -/
theorem Database.render_of_grounded {stmts : List Statement} (h : ∀ st ∈ stmts, st.Grounded db) :
    ∃ text, db.render p stmts = .ok text := by
  have htexts : ∃ texts, stmts.mapM (·.render db p) = .ok texts :=
    exists_mapM fun st hst => Statement.render_of_grounded (h st hst)
  obtain ⟨texts, htexts⟩ := htexts
  exact ⟨_, by rw [Database.render, htexts]⟩

end Rendering

namespace Database

variable {db : Database} {p : Platform} {s : Settings} {stmts : List Statement}
  {tables : List (Entity × List ForeignKey)}

-- ── Parts of a script ─────────────────────────────────────────────────────────

theorem mem_emitted {e : Entity} : e ∈ db.emitted ↔ e ∈ db.entities ∧ e.skipSql = false := by
  simp [emitted]

/-- The drops of a script, if they are asked for. -/
def dropsOf (db : Database) (p : Platform) (s : Settings) : List Statement :=
  if s.dropTables then dropStatements p db.emitted else []

/-- The statements for known tables: drops, then tables with what belongs to them, then keys that
    were put off. -/
def scriptOf (db : Database) (p : Platform) (s : Settings)
    (tables : List (Entity × List ForeignKey)) : List Statement :=
  db.dropsOf p s ++ tables.flatMap (fun t => tableStatements p t.1 t.2) ++
    deferredStatements p (tables.flatMap (·.2))

/-- The platform has no say in whether there are statements. -/
theorem statements_eq (db : Database) (p : Platform) (s : Settings) :
    db.statements p s = (db.tablesOf db.emitted).map (db.scriptOf p s) := by
  rw [statements]
  cases db.tablesOf db.emitted with
  | error e => rfl
  | ok tables => rfl

/-- Statements are those of a script, laid out for the tables that the emitted entities give. -/
theorem statements_eq_ok (h : db.statements p s = .ok stmts) :
    ∃ tables, db.tablesOf db.emitted = .ok tables ∧ stmts = db.scriptOf p s tables := by
  rw [statements_eq] at h
  cases ht : db.tablesOf db.emitted with
  | error e =>
      rw [ht] at h
      exact nomatch h
  | ok tables =>
      rw [ht] at h
      injection h with h
      exact ⟨tables, rfl, h.symm⟩

/-- The drops of a script: none, or one for every emitted entity. -/
theorem mem_drops {st : Statement} (h : st ∈ db.dropsOf p s) :
    ∃ e ∈ db.emitted, st = .dropTable e.id true p.profile.hasDropCascade := by
  rw [dropsOf] at h
  split at h
  · obtain ⟨e, he, rfl⟩ := List.mem_map.mp h
    exact ⟨e, List.mem_reverse.mp he, rfl⟩
  · simp at h

/-- Each table is created once, by the first of its statements, and indices create none. -/
theorem filterMap_created_tables :
    (tables.flatMap fun t => tableStatements p t.1 t.2).filterMap Statement.created? =
      (tables.map Prod.fst).map (·.id) := by
  induction tables with
  | nil => rfl
  | cons t tables ih =>
      have hindices : ((List.range t.1.indices.length).map
          (Statement.createIndex t.1.id)).filterMap Statement.created? = [] := by
        simp [List.filterMap_map, Function.comp_def, Statement.created?]
      rw [List.flatMap_cons, List.filterMap_append, ih, tableStatements,
        List.filterMap_cons_some (f := Statement.created?) rfl, hindices]
      rfl

/-- Tables hold their foreign keys, unless the platform adds all of them at the end. -/
theorem flatMap_keys_tables :
    (tables.flatMap fun t => tableStatements p t.1 t.2).flatMap Statement.foreignKeys =
      if p.profile.inlinesForeignKeys then tables.flatMap (·.2) else [] := by
  induction tables with
  | nil => simp
  | cons t tables ih =>
      have hindices : ((List.range t.1.indices.length).map
          (Statement.createIndex t.1.id)).flatMap Statement.foreignKeys = [] := by
        simp [List.flatMap_map, Statement.foreignKeys]
      rw [List.flatMap_cons, List.flatMap_append, ih, tableStatements, List.flatMap_cons, hindices]
      by_cases hinline : p.profile.inlinesForeignKeys
      · simp [hinline, Statement.foreignKeys]
      · simp [hinline, Statement.foreignKeys]

/-- What is added at the end are all foreign keys, or none if the tables hold them. -/
theorem flatMap_keys_deferred (keys : List ForeignKey) :
    (deferredStatements p keys).flatMap Statement.foreignKeys =
      if p.profile.inlinesForeignKeys then [] else keys := by
  by_cases hinline : p.profile.inlinesForeignKeys
  · simp [deferredStatements, hinline]
  · simp [deferredStatements, hinline, List.flatMap_map, Statement.foreignKeys]

/-- A drop creates no table. -/
theorem filterMap_created_drops :
    (db.dropsOf p s).filterMap Statement.created? = [] := by
  refine List.filterMap_eq_nil_iff.mpr fun st hst => ?_
  obtain ⟨e, -, rfl⟩ := mem_drops hst
  rfl

/-- A drop makes no foreign key. -/
theorem flatMap_keys_drops :
    (db.dropsOf p s).flatMap Statement.foreignKeys =
      [] := by
  refine List.flatMap_eq_nil_iff.mpr fun st hst => ?_
  obtain ⟨e, -, rfl⟩ := mem_drops hst
  rfl

/-- Adding foreign keys creates no table. -/
theorem filterMap_created_deferred (keys : List ForeignKey) :
    (deferredStatements p keys).filterMap Statement.created? = [] := by
  by_cases hinline : p.profile.inlinesForeignKeys
  · simp [deferredStatements, hinline]
  · simp [deferredStatements, hinline, List.filterMap_map, Function.comp_def, Statement.created?]

/-- The foreign keys of a script are those of its tables, wherever they stand. -/
theorem flatMap_keys_scriptOf :
    (db.scriptOf p s tables).flatMap Statement.foreignKeys = tables.flatMap (·.2) := by
  rw [scriptOf, List.flatMap_append, List.flatMap_append, flatMap_keys_drops, flatMap_keys_tables,
    flatMap_keys_deferred]
  by_cases hinline : p.profile.inlinesForeignKeys
  · simp [hinline]
  · simp [hinline]

/-- A script creates the tables that it was laid out for, in their order. -/
theorem filterMap_created_scriptOf :
    (db.scriptOf p s tables).filterMap Statement.created? = (tables.map Prod.fst).map (·.id) := by
  rw [scriptOf, List.filterMap_append, List.filterMap_append, filterMap_created_drops,
    filterMap_created_tables, filterMap_created_deferred, List.append_nil, List.nil_append]

/-- The tables that statements create are those of the emitted entities, in order. -/
theorem created_statements (h : db.statements p s = .ok stmts) :
    stmts.filterMap Statement.created? = db.emitted.map (·.id) := by
  obtain ⟨tables, htables, rfl⟩ := statements_eq_ok h
  rw [filterMap_created_scriptOf, map_fst_tablesOf htables]

/-- The foreign keys of statements, in the tables or at the end, are one for each relation that gets
    one, in order. -/
theorem foreignKeys_statements (h : db.statements p s = .ok stmts) :
    List.Forall₂ (fun r key => ForeignKey.ofRelation db r = .ok key) db.constrained
      (stmts.flatMap Statement.foreignKeys) := by
  obtain ⟨tables, htables, rfl⟩ := statements_eq_ok h
  rw [flatMap_keys_scriptOf]
  exact tablesOf_keys htables

-- ── Members of a script ───────────────────────────────────────────────────────

/-- What a statement can be. -/
theorem mem_statements (h : db.statements p s = .ok stmts) {st : Statement} (hst : st ∈ stmts) :
    (∃ e ∈ db.emitted, st = .dropTable e.id true p.profile.hasDropCascade) ∨
    (∃ e ∈ db.emitted, ∃ keys made, db.foreignKeysOf e.relations = .ok made ∧ keys ⊆ made ∧
      st = .createTable e.id keys) ∨
    (∃ e ∈ db.emitted, ∃ i, i < e.indices.length ∧ st = .createIndex e.id i) ∨
    ∃ key, st = .addForeignKey key := by
  obtain ⟨tables, htables, rfl⟩ := statements_eq_ok h
  rcases List.mem_append.mp hst with hst | hdeferred
  · rcases List.mem_append.mp hst with hdrop | htable
    · exact Or.inl (mem_drops hdrop)
    · obtain ⟨t, ht, hst⟩ := List.mem_flatMap.mp htable
      obtain ⟨e, he, hfirst, hmade⟩ := forall₂_mem_right (tablesOf_eq_ok htables) ht
      rw [hfirst] at hst
      rcases List.mem_cons.mp hst with rfl | hindex
      · refine Or.inr (Or.inl ⟨e, he, _, t.2, hmade, ?_, rfl⟩)
        by_cases hinline : p.profile.inlinesForeignKeys
        · simp [hinline]
        · simp [hinline]
      · obtain ⟨i, hi, rfl⟩ := List.mem_map.mp hindex
        exact Or.inr (Or.inr (Or.inl ⟨e, he, i, List.mem_range.mp hi, rfl⟩))
  · rw [deferredStatements] at hdeferred
    split at hdeferred
    · simp at hdeferred
    · obtain ⟨key, -, rfl⟩ := List.mem_map.mp hdeferred
      exact Or.inr (Or.inr (Or.inr ⟨key, rfl⟩))

/-- The foreign keys of an entity belong to its table. -/
theorem Placed.table_of_foreignKeysOf (hp : db.Placed) {e : Entity} (he : e ∈ db.emitted)
    {keys : List ForeignKey} (h : db.foreignKeysOf e.relations = .ok keys) {key : ForeignKey}
    (hkey : key ∈ keys) : key.table = e.id := by
  obtain ⟨r, hr, hmade⟩ := forall₂_mem_right (foreignKeysOf_eq_ok h) hkey
  obtain ⟨-, -, -, -, -, -, htable, -, -, -⟩ := ForeignKey.ofRelation_eq_ok hmade
  rw [htable]
  exact hp.relation_entity (mem_emitted.mp he).1 (List.mem_filter.mp hr).1

/-- The key of a relation that gets one ties an emitted entity to an emitted one. -/
theorem joins_of_constrained (hp : db.Placed) (hresolved : db.Resolved) {r : Relation}
    (hr : r ∈ db.constrained) {key : ForeignKey} (hkey : ForeignKey.ofRelation db r = .ok key) :
    ∃ owner ∈ db.emitted, ∃ target ∈ db.emitted, r ∈ owner.relations ∧
      r.targetEntity? db = some target ∧ key.Joins r owner target := by
  obtain ⟨hlisted, hconstrains⟩ := List.mem_filter.mp hr
  obtain ⟨owner, howner, hr⟩ := List.mem_flatMap.mp hlisted
  have hentity : owner ∈ db.entities := (mem_emitted.mp howner).1
  obtain ⟨hne, -⟩ := hresolved r (mem_relations.mpr ⟨owner, hentity, hr⟩)
  obtain ⟨owner', target, howner', htarget, hjoins⟩ :=
    ForeignKey.joins_of_ofRelation hp hne hkey
  rw [hp.owner?_eq hentity hr] at howner'
  injection howner' with hsame
  subst hsame
  refine ⟨owner, howner, target, ?_, hr, htarget, hjoins⟩
  rw [constrains, htarget, Bool.and_eq_true] at hconstrains
  refine mem_emitted.mpr ⟨Relation.mem_of_targetEntity? htarget, ?_⟩
  simpa using hconstrains.2

/-- All foreign keys of statements, each with the relation that it is made for. -/
theorem joins_statements (hp : db.Placed) (hresolved : db.Resolved)
    (h : db.statements p s = .ok stmts) :
    List.Forall₂ (fun r key => ∃ owner ∈ db.emitted, ∃ target ∈ db.emitted,
        r ∈ owner.relations ∧ r.targetEntity? db = some target ∧ key.Joins r owner target)
      db.constrained (stmts.flatMap Statement.foreignKeys) :=
  forall₂_imp_mem (foreignKeys_statements h) fun _ hr _ hkey =>
    joins_of_constrained hp hresolved hr hkey

/-- Every statement is about the table of an emitted entity. -/
theorem table_of_statements (hp : db.Placed) (hresolved : db.Resolved)
    (h : db.statements p s = .ok stmts) {st : Statement} (hst : st ∈ stmts) :
    ∃ e ∈ db.emitted, st.table = e.id := by
  rcases mem_statements h hst with
    ⟨e, he, rfl⟩ | ⟨e, he, keys, made, -, -, rfl⟩ | ⟨e, he, i, -, rfl⟩ | ⟨key, rfl⟩
  · exact ⟨e, he, rfl⟩
  · exact ⟨e, he, rfl⟩
  · exact ⟨e, he, rfl⟩
  · obtain ⟨r, -, owner, howner, target, -, -, -, hjoins⟩ := forall₂_mem_right
      (joins_statements hp hresolved h)
      (List.mem_flatMap.mpr ⟨_, hst, List.mem_singleton.mpr rfl⟩)
    exact ⟨owner, howner, hjoins.table⟩

/-- Statements name only what is there. -/
theorem grounded_statements (hp : db.Placed) (hresolved : db.Resolved)
    (h : db.statements p s = .ok stmts) : ∀ st ∈ stmts, st.Grounded db := by
  intro st hst
  have hfound : ∀ e ∈ db.emitted, db.entity? e.id = some e := fun e he =>
    hp.entity?_id (mem_emitted.mp he).1
  have hends : ∀ key ∈ st.foreignKeys, (∃ e, db.entity? key.table = some e) ∧
      ∃ t, db.entity? key.references = some t := by
    intro key hkey
    obtain ⟨r, -, owner, howner, target, htarget, -, -, hjoins⟩ := forall₂_mem_right
      (joins_statements hp hresolved h) (List.mem_flatMap.mpr ⟨st, hst, hkey⟩)
    rw [hjoins.table, hjoins.references]
    exact ⟨⟨owner, hfound owner howner⟩, target, hfound target htarget⟩
  rcases mem_statements h hst with
    ⟨e, he, rfl⟩ | ⟨e, he, keys, made, -, -, rfl⟩ | ⟨e, he, i, hi, rfl⟩ | ⟨key, rfl⟩
  · exact ⟨e, hfound e he⟩
  · exact ⟨⟨e, hfound e he⟩, fun key hkey => (hends key hkey).2⟩
  · exact ⟨e, e.indices.get ⟨i, hi⟩, hfound e he, List.getElem?_eq_getElem hi⟩
  · exact hends key (List.mem_singleton.mpr rfl)

-- ── Finalized databases ───────────────────────────────────────────────────────

/-- The statements of a resolved database are its script. -/
theorem script_of_resolved (hp : db.Placed) (hresolved : db.Resolved)
    (h : db.statements p s = .ok stmts) : db.Script stmts where
  layout := by
    obtain ⟨tables, htables, rfl⟩ := statements_eq_ok h
    refine ⟨db.dropsOf p s,
      tables.map fun t => (t.1, if p.profile.inlinesForeignKeys then t.2 else []),
      if p.profile.inlinesForeignKeys then [] else tables.flatMap (·.2), ?_, ?_, ?_, ?_⟩
    · rw [scriptOf, List.flatMap_map, deferredStatements]
      by_cases hinline : p.profile.inlinesForeignKeys
      · simp [hinline, tableStatements]
      · simp [hinline, tableStatements]
    · intro st hst
      obtain ⟨e, -, rfl⟩ := mem_drops hst
      exact ⟨_, _, _, rfl⟩
    · rw [← map_fst_tablesOf htables, List.map_map]
      rfl
    · by_cases hinline : p.profile.inlinesForeignKeys
      · exact Or.inr (by simp [hinline])
      · exact Or.inl (by simp [hinline])
  created := created_statements h
  once := by
    rw [created_statements h]
    exact hp.nodup_ids.sublist (List.filter_sublist.map _)
  skipped := by
    intro e he hskip st hst heq
    obtain ⟨e', he', htable⟩ := table_of_statements hp hresolved h hst
    obtain ⟨hmem, hemits⟩ := mem_emitted.mp he'
    have hsame : e' = e := hp.entity_ext hmem he (htable.symm.trans heq)
    rw [hsame, hskip] at hemits
    exact nomatch hemits
  keys := joins_statements hp hresolved h
  inside := by
    intro st hst key hkey
    rcases mem_statements h hst with
      ⟨e, -, rfl⟩ | ⟨e, he, keys, made, hmade, hsub, rfl⟩ | ⟨e, -, i, -, rfl⟩ | ⟨key', rfl⟩
    · exact nomatch hkey
    · exact hp.table_of_foreignKeysOf he hmade (hsub hkey)
    · exact nomatch hkey
    · rw [List.mem_singleton.mp hkey]
      rfl
  ends := by
    intro key hkey
    obtain ⟨r, -, owner, howner, target, htarget, -, -, hjoins⟩ :=
      forall₂_mem_right (joins_statements hp hresolved h) hkey
    rw [created_statements h, hjoins.table, hjoins.references]
    exact ⟨List.mem_map.mpr ⟨owner, howner, rfl⟩, List.mem_map.mpr ⟨target, htarget, rfl⟩⟩

/-- The statements of a finalized database, whatever operations led to it, are its script, and every
    platform renders them. -/
theorem statements_script (h : db.Reachable) (hflag : db.finalized = true)
    (hok : db.statements p s = .ok stmts) :
    db.Script stmts ∧ ∀ q : Platform, ∃ text, db.render q stmts = .ok text := by
  have hsound := h.sound
  have hresolved := hsound.resolved hflag
  exact ⟨script_of_resolved hsound.placed hresolved hok, fun _ =>
    render_of_grounded (grounded_statements hsound.placed hresolved hok)⟩

/-- The community, finalized for PostgreSQL, has a script with foreign keys at its end. -/
theorem statements_script_community :
    ∃ (d : Database) (stmts : List Statement), d.Reachable ∧ d.finalized = true ∧
      d.statements ⟨.postgresql, true⟩ ⟨none, true, "InnoDB"⟩ = .ok stmts ∧
      (stmts.flatMap Statement.foreignKeys).length = 4 ∧ d.Script stmts ∧
      ∀ q : Platform, ∃ text, d.render q stmts = .ok text := by
  obtain ⟨stmts, hok, hkeys⟩ : ∃ stmts,
      (community.finalize ⟨.postgresql, true⟩).1.statements ⟨.postgresql, true⟩
        ⟨none, true, "InnoDB"⟩ = .ok stmts ∧
      (stmts.flatMap Statement.foreignKeys).length = 4 := by
    have hcount : ((community.finalize ⟨.postgresql, true⟩).1.statements ⟨.postgresql, true⟩
        ⟨none, true, "InnoDB"⟩).toOption.map (fun stmts =>
          (stmts.flatMap Statement.foreignKeys).length) = some 4 := by decide +kernel
    cases hstmts : (community.finalize ⟨.postgresql, true⟩).1.statements ⟨.postgresql, true⟩
        ⟨none, true, "InnoDB"⟩ with
    | error e =>
        rw [hstmts] at hcount
        exact nomatch hcount
    | ok stmts =>
        rw [hstmts] at hcount
        exact ⟨stmts, rfl, Option.some.inj hcount⟩
  have hd : (community.finalize ⟨.postgresql, true⟩).1.Reachable :=
    community_reachable.run (.finalize ⟨.postgresql, true⟩)
  have hflag : (community.finalize ⟨.postgresql, true⟩).1.finalized = true := by decide +kernel
  exact ⟨_, stmts, hd, hflag, hok, hkeys, statements_script hd hflag hok⟩

end Database

end SchemaDdl
