import SchemaDdl.Proofs.Renumbering
import SchemaDdl.Proofs.Script
import Mathlib.Data.List.Perm.Basic

/-!
# Statements under other numbers

A statement names tables by position, but its text does not: positions are looked up when it is
written. So under other numbers every statement has the same text. What may change is the order in
which tables come. The statements of one table are the same, in the same order.

* **`Statement.renumber`**, **`Database.Renumbered.render`**: a statement under other numbers, and
  that it has the same text.
* **`Database.statementsOn`**: the statements of one table, picked out of a script.
* **`Database.Renumbered.texts`**: their texts do not depend on the numbers.
-/

namespace SchemaDdl

/-- A foreign key under other numbers. -/
def ForeignKey.renumber (σ : Equiv.Perm ℕ) (key : ForeignKey) : ForeignKey :=
  { key with table := key.table.map σ, references := key.references.map σ }

/-- A statement under other numbers. -/
def Statement.renumber (σ : Equiv.Perm ℕ) : Statement → Statement
  | .createTable id keys => .createTable (id.map σ) (keys.map (ForeignKey.renumber σ))
  | .createIndex id position => .createIndex (id.map σ) position
  | .dropTable id ifExists cascade => .dropTable (id.map σ) ifExists cascade
  | .addForeignKey key => .addForeignKey (key.renumber σ)

/-- A renumbered statement is about the renumbered table. -/
theorem Statement.table_renumber (σ : Equiv.Perm ℕ) (st : Statement) :
    (st.renumber σ).table = st.table.map σ := by
  cases st with
  | createTable id keys => rfl
  | createIndex id position => rfl
  | dropTable id ifExists cascade => rfl
  | addForeignKey key => rfl

-- ── The statements of one table ───────────────────────────────────────────────

section Groups

variable {α β κ : Type} [BEq κ] [LawfulBEq κ] {tag : β → κ}

theorem filter_tag_eq_self {bs : List β} {k : κ} (h : ∀ b ∈ bs, tag b = k) :
    bs.filter (tag · == k) = bs :=
  List.filter_eq_self.mpr fun b hb => by rw [h b hb, beq_self_eq_true]

theorem filter_tag_eq_nil {bs : List β} {k : κ} (h : ∀ b ∈ bs, tag b ≠ k) :
    bs.filter (tag · == k) = [] :=
  List.filter_eq_nil_iff.mpr fun b hb htag => h b hb (eq_of_beq htag)

/-- Of lists put together one for each item, the one of an item is found again by its tag. -/
theorem filter_flatMap_tag (f : α → List β) (key : α → κ) {l : List α}
    (hnodup : (l.map key).Nodup) (htag : ∀ a ∈ l, ∀ b ∈ f a, tag b = key a) {a : α} (ha : a ∈ l) :
    (l.flatMap f).filter (tag · == key a) = f a := by
  induction l with
  | nil => exact nomatch ha
  | cons c l ih =>
      obtain ⟨hnew, hrest⟩ := List.nodup_cons.mp hnodup
      obtain ⟨hc, hl⟩ := List.forall_mem_cons.mp htag
      rw [List.flatMap_cons, List.filter_append]
      rcases List.mem_cons.mp ha with rfl | ha
      · have hothers : ∀ b ∈ l.flatMap f, tag b ≠ key a := by
          intro b hb heq
          obtain ⟨a', ha', hb⟩ := List.mem_flatMap.mp hb
          exact hnew (List.mem_map.mpr ⟨a', ha', (hl a' ha' b hb).symm.trans heq⟩)
        rw [filter_tag_eq_self hc, filter_tag_eq_nil hothers, List.append_nil]
      · have hother : ∀ b ∈ f c, tag b ≠ key a := by
          intro b hb heq
          exact hnew (List.mem_map.mpr ⟨a, ha, heq.symm.trans (hc b hb)⟩)
        rw [filter_tag_eq_nil hother, ih hrest hl ha, List.nil_append]

end Groups

namespace Database

variable {db db' : Database} {p : Platform} {s : Settings} {stmts stmts' : List Statement}

/-- The statements about the table of an entity, given its foreign keys. -/
def statementsOn (p : Platform) (s : Settings) (e : Entity) (keys : List ForeignKey) :
    List Statement :=
  (if s.dropTables then [.dropTable e.id true p.profile.hasDropCascade] else []) ++
    tableStatements p e keys ++ deferredStatements p keys

theorem Placed.nodup_emitted (hp : db.Placed) : (db.emitted.map (·.id)).Nodup :=
  hp.nodup_ids.sublist (List.filter_sublist.map _)

-- A script is drops, tables and keys that were put off, each one list for every emitted entity.

/-- An emitted table is dropped once, if tables are dropped. -/
theorem filter_drops (hp : db.Placed) {e : Entity} (he : e ∈ db.emitted) :
    (db.dropsOf p s).filter (·.table == e.id) =
      if s.dropTables then [.dropTable e.id true p.profile.hasDropCascade] else [] := by
  rw [dropsOf]
  split
  · rw [dropStatements, List.map_eq_flatMap]
    refine filter_flatMap_tag _ (·.id) ?_ ?_ (List.mem_reverse.mpr he)
    · rw [List.map_reverse]
      exact List.nodup_reverse.mpr hp.nodup_emitted
    · intro e' _ st hst
      rw [List.mem_singleton.mp hst]
      rfl
  · rfl

/-- The statements that create a table and its indices come from one entity alone. -/
theorem filter_tables {tables : List (Entity × List ForeignKey)}
    (hids : (tables.map (·.1.id)).Nodup) {t : Entity × List ForeignKey} (ht : t ∈ tables) :
    (tables.flatMap fun t => tableStatements p t.1 t.2).filter (·.table == t.1.id) =
      tableStatements p t.1 t.2 := by
  refine filter_flatMap_tag (fun t => tableStatements p t.1 t.2) (·.1.id) hids ?_ ht
  intro t' _ st hst
  rcases List.mem_cons.mp hst with rfl | hindex
  · rfl
  · obtain ⟨i, -, rfl⟩ := List.mem_map.mp hindex
    rfl

/-- The foreign keys that are added to a table at the end are those of its entity. -/
theorem filter_deferred {tables : List (Entity × List ForeignKey)}
    (hids : (tables.map (·.1.id)).Nodup)
    (hkeys : ∀ t ∈ tables, ∀ key ∈ t.2, key.table = t.1.id)
    {t : Entity × List ForeignKey} (ht : t ∈ tables) :
    (deferredStatements p (tables.flatMap (·.2))).filter (·.table == t.1.id) =
      deferredStatements p t.2 := by
  rw [deferredStatements, deferredStatements]
  split
  · rfl
  · rw [List.map_flatMap]
    refine filter_flatMap_tag (fun t => t.2.map Statement.addForeignKey) (·.1.id) hids ?_ ht
    intro t' ht' st hst
    obtain ⟨key, hkey, rfl⟩ := List.mem_map.mp hst
    exact hkeys t' ht' key hkey

/-- Picked out of a script, the statements of an emitted table are those that its entity and its
    foreign keys give. -/
theorem filter_statements (hp : db.Placed) (h : db.statements p s = .ok stmts) {e : Entity}
    (he : e ∈ db.emitted) : ∃ keys, db.foreignKeysOf e.relations = .ok keys ∧
      stmts.filter (·.table == e.id) = statementsOn p s e keys := by
  obtain ⟨tables, htables, rfl⟩ := statements_eq_ok h
  have hpairs := tablesOf_eq_ok htables
  obtain ⟨t, ht, rfl, hkeys⟩ := forall₂_mem_left hpairs he
  have hids : (tables.map (·.1.id)).Nodup := by
    have hnodup := hp.nodup_emitted
    rw [← map_fst_tablesOf htables, List.map_map] at hnodup
    exact hnodup
  have howned : ∀ t' ∈ tables, ∀ key ∈ t'.2, key.table = t'.1.id := by
    intro t' ht' key hkey
    obtain ⟨e', he', hsame, hkeys'⟩ := forall₂_mem_right hpairs ht'
    rw [hsame]
    exact hp.table_of_foreignKeysOf he' hkeys' hkey
  refine ⟨t.2, hkeys, ?_⟩
  rw [scriptOf, List.filter_append, List.filter_append, filter_drops hp he, filter_tables hids ht,
    filter_deferred hids howned ht]
  rfl

/-- There is no statement about the table of a skipped entity. -/
theorem filter_statements_of_skipped (hp : db.Placed) (hresolved : db.Resolved)
    (h : db.statements p s = .ok stmts) {e : Entity} (he : e ∈ db.entities)
    (hskip : e.skipSql = true) : stmts.filter (·.table == e.id) = [] :=
  filter_tag_eq_nil ((script_of_resolved hp hresolved h).skipped e he hskip)

/-- There are statements if foreign keys can be made for every emitted entity. -/
theorem exists_statements_iff :
    (∃ stmts, db.statements p s = .ok stmts) ↔
      ∀ e ∈ db.emitted, ∃ keys, db.foreignKeysOf e.relations = .ok keys := by
  constructor
  · rintro ⟨stmts, h⟩ e he
    obtain ⟨tables, htables, -⟩ := statements_eq_ok h
    obtain ⟨t, -, -, hkeys⟩ := forall₂_mem_left (tablesOf_eq_ok htables) he
    exact ⟨t.2, hkeys⟩
  · intro h
    obtain ⟨tables, htables⟩ := tablesOf_of_keys h
    rw [statements, htables]
    exact ⟨_, rfl⟩

-- ── Other numbers ─────────────────────────────────────────────────────────────

/-- Renumbering an entity and its foreign keys renumbers the statements about its table and changes
    nothing else about them. -/
theorem statementsOn_renumber (σ : Equiv.Perm ℕ) (e : Entity) (keys : List ForeignKey) :
    statementsOn p s (e.renumber σ) (keys.map (ForeignKey.renumber σ)) =
      (statementsOn p s e keys).map (Statement.renumber σ) := by
  have hdrops : ∀ drop : Bool,
      (if drop then [.dropTable (e.renumber σ).id true p.profile.hasDropCascade] else []) =
      (if drop then [Statement.dropTable e.id true p.profile.hasDropCascade] else []).map
        (Statement.renumber σ) := by
    intro drop
    cases drop with
    | false => rfl
    | true => rfl
  have htable : tableStatements p (e.renumber σ) (keys.map (ForeignKey.renumber σ)) =
      (tableStatements p e keys).map (Statement.renumber σ) := by
    rw [tableStatements, tableStatements, List.map_cons, List.map_map]
    cases p.profile.inlinesForeignKeys with
    | false => rfl
    | true => rfl
  have hdeferred : deferredStatements p (keys.map (ForeignKey.renumber σ)) =
      (deferredStatements p keys).map (Statement.renumber σ) := by
    rw [deferredStatements, deferredStatements]
    split
    · rfl
    · rw [List.map_map, List.map_map]
      rfl
  rw [statementsOn, statementsOn, List.map_append, List.map_append, hdrops, htable, hdeferred]

namespace Renumbered

variable {σ : Equiv.Perm ℕ} (h : Renumbered σ db db')
include h

/-- The foreign key of a relation is the same under other numbers. -/
theorem ofRelation (r : Relation) : ForeignKey.ofRelation db' (r.renumber σ) =
    (ForeignKey.ofRelation db r).map (ForeignKey.renumber σ) := by
  have hpairs : (r.renumber σ).fieldPairsIn db' = r.fieldPairsIn db := by
    rw [Relation.fieldPairsIn, Relation.fieldPairsIn, h.localFieldsIn, h.foreignFieldsIn]
  rw [ForeignKey.ofRelation, ForeignKey.ofRelation, h.targetIn, hpairs, h.nameIn]
  cases r.targetIn db with
  | error e => rfl
  | ok t =>
      cases r.fieldPairsIn db with
      | error e => rfl
      | ok pairs => rfl

/-- The same relations get foreign keys, in the same order, or making them fails with the same
    error. -/
theorem foreignKeysOf (rs : List Relation) : db'.foreignKeysOf (rs.map (Relation.renumber σ)) =
    (db.foreignKeysOf rs).map (List.map (ForeignKey.renumber σ)) := by
  induction rs with
  | nil => rfl
  | cons r rs ih =>
      have hemits : db'.emitsForeignKey (r.renumber σ) = db.emitsForeignKey r := by
        rw [emitsForeignKey, emitsForeignKey, h.targetIn]
        cases r.targetIn db with
        | error e => rfl
        | ok t => rfl
      rw [List.map_cons, Database.foreignKeysOf, Database.foreignKeysOf, hemits, h.ofRelation, ih]
      cases db.emitsForeignKey r with
      | error e => rfl
      | ok emits =>
          cases emits with
          | false => rfl
          | true =>
              cases ForeignKey.ofRelation db r with
              | error e => rfl
              | ok key =>
                  cases db.foreignKeysOf rs with
                  | error e => rfl
                  | ok keys => rfl

/-- A renumbered entity is found under its new number. -/
theorem entityAt (id : EntityId) :
    db'.entityAt (id.map σ) = (db.entityAt id).map (Entity.renumber σ) := by
  rw [Database.entityAt, Database.entityAt, h.entity?]
  cases db.entity? id with
  | none => rfl
  | some e => rfl

/-- Foreign keys are written with names, so they are written the same under other numbers. -/
theorem renderForeignKeys (q : Platform) (keys : List ForeignKey) :
    renderForeignKeys db' q (keys.map (ForeignKey.renumber σ)) = renderForeignKeys db q keys := by
  induction keys with
  | nil => rfl
  | cons key keys ih =>
      have htarget : db'.entityAt (key.renumber σ).references =
          (db.entityAt key.references).map (Entity.renumber σ) := h.entityAt key.references
      rw [List.map_cons, SchemaDdl.renderForeignKeys, SchemaDdl.renderForeignKeys, ih, htarget]
      cases db.entityAt key.references with
      | error m => rfl
      | ok t => rfl

/-- A statement has the same text under other numbers. -/
theorem render (q : Platform) (st : Statement) :
    (st.renumber σ).render db' q = st.render db q := by
  have hbody : (st.renumber σ).body db' q = st.body db q := by
    cases st with
    | createTable id keys =>
        rw [Statement.renumber, Statement.body, Statement.body, h.entityAt, h.renderForeignKeys]
        cases db.entityAt id with
        | error m => rfl
        | ok e => rfl
    | createIndex id position =>
        rw [Statement.renumber, Statement.body, Statement.body, h.entityAt]
        cases db.entityAt id with
        | error m => rfl
        | ok e => rfl
    | dropTable id ifExists cascade =>
        rw [Statement.renumber, Statement.body, Statement.body, h.entityAt]
        cases db.entityAt id with
        | error m => rfl
        | ok e => rfl
    | addForeignKey key =>
        have howner : db'.entityAt (key.renumber σ).table =
            (db.entityAt key.table).map (Entity.renumber σ) := h.entityAt key.table
        have htarget : db'.entityAt (key.renumber σ).references =
            (db.entityAt key.references).map (Entity.renumber σ) := h.entityAt key.references
        rw [Statement.renumber, Statement.body, Statement.body, howner, htarget]
        cases db.entityAt key.table with
        | error m => rfl
        | ok owner =>
            cases db.entityAt key.references with
            | error m => rfl
            | ok target => rfl
  rw [Statement.render, Statement.render, hbody]

/-- There are statements under both numberings, or under neither. -/
theorem exists_statements_iff : (∃ stmts, db'.statements p s = .ok stmts) ↔
    ∃ stmts, db.statements p s = .ok stmts := by
  rw [Database.exists_statements_iff, Database.exists_statements_iff]
  constructor
  · intro hall e he
    obtain ⟨hmem, hskip⟩ := mem_emitted.mp he
    obtain ⟨keys, hkeys⟩ := hall (e.renumber σ) (mem_emitted.mpr ⟨h.mem hmem, hskip⟩)
    have hmap := (h.foreignKeysOf e.relations).symm.trans hkeys
    cases hmade : db.foreignKeysOf e.relations with
    | error err =>
        rw [hmade] at hmap
        exact nomatch hmap
    | ok keys => exact ⟨keys, rfl⟩
  · intro hall e' he'
    obtain ⟨hmem, hskip⟩ := mem_emitted.mp he'
    obtain ⟨e, he, rfl⟩ := h.of_mem hmem
    obtain ⟨keys, hkeys⟩ := hall e (mem_emitted.mpr ⟨he, hskip⟩)
    refine ⟨keys.map (ForeignKey.renumber σ), (h.foreignKeysOf e.relations).trans ?_⟩
    rw [hkeys]
    rfl

section Scripts

variable (hp : db.Placed) (hp' : db'.Placed) (hresolved : db.Resolved)
  (hresolved' : db'.Resolved) (hs : db.statements p s = .ok stmts)
  (hs' : db'.statements p s = .ok stmts')
include hp hp' hresolved hresolved' hs hs'

/-- The statements of one table under other numbers. -/
theorem filter_statements {e : Entity} (he : e ∈ db.entities) :
    stmts'.filter (·.table == (e.renumber σ).id) =
      (stmts.filter (·.table == e.id)).map (Statement.renumber σ) := by
  cases hskip : e.skipSql with
  | true =>
      rw [filter_statements_of_skipped hp hresolved hs he hskip,
        filter_statements_of_skipped hp' hresolved' hs' (h.mem he) hskip]
      rfl
  | false =>
      obtain ⟨keys, hkeys, hon⟩ :=
        Database.filter_statements hp hs (mem_emitted.mpr ⟨he, hskip⟩)
      obtain ⟨keys', hkeys', hon'⟩ :=
        Database.filter_statements hp' hs' (mem_emitted.mpr ⟨h.mem he, hskip⟩)
      have hmap := (h.foreignKeysOf e.relations).symm.trans hkeys'
      rw [hkeys] at hmap
      injection hmap with hmap
      rw [hon, hon', ← hmap, statementsOn_renumber]

/-- Under other numbers there are the same statements, perhaps in another order. -/
theorem perm_statements :
    stmts'.Perm (stmts.map (Statement.renumber σ)) := by
  refine List.perm_iff_count.mpr fun st => ?_
  by_cases hfound : ∃ e ∈ db.entities, (e.renumber σ).id = st.table
  · -- both lists have as many of a statement as there are about its table
    obtain ⟨e, he, hid⟩ := hfound
    have hown : (st.table == (e.renumber σ).id) = true := by rw [hid, beq_self_eq_true]
    have htest : (fun st' : Statement => st'.table == (e.renumber σ).id) ∘ Statement.renumber σ =
        fun st' => st'.table == e.id := by
      funext st'
      show ((st'.renumber σ).table == e.id.map σ) = _
      rw [Statement.table_renumber]
      exact map_beq_map_some st'.table e.id
    rw [← List.count_filter (p := fun st' => st'.table == (e.renumber σ).id) hown,
      ← List.count_filter (l := stmts.map _) (p := fun st' => st'.table == (e.renumber σ).id) hown,
      h.filter_statements hp hp' hresolved hresolved' hs hs' he, List.filter_map, htest]
  · -- a statement that is about no table of the database is in neither list
    have hnot' : st ∉ stmts' := by
      intro hmem
      obtain ⟨e', he', heq⟩ := table_of_statements hp' hresolved' hs' hmem
      obtain ⟨e, he, rfl⟩ := h.of_mem (mem_emitted.mp he').1
      exact hfound ⟨e, he, heq.symm⟩
    have hnot : st ∉ stmts.map (Statement.renumber σ) := by
      intro hmem
      obtain ⟨st', hst', rfl⟩ := List.mem_map.mp hmem
      obtain ⟨e, he, heq⟩ := table_of_statements hp hresolved hs hst'
      refine hfound ⟨e, (mem_emitted.mp he).1, ?_⟩
      rw [Statement.table_renumber, heq]
      rfl
    rw [List.count_eq_zero_of_not_mem hnot', List.count_eq_zero_of_not_mem hnot]

/-- Every table has statements of the same texts, in the same order, under both numberings. -/
theorem texts {e : Entity} (he : e ∈ db.entities) (q : Platform) :
    ∃ texts, (stmts.filter (·.table == e.id)).mapM (·.render db q) = .ok texts ∧
      (stmts'.filter (·.table == (e.renumber σ).id)).mapM (·.render db' q) = .ok texts := by
  have hall : ∀ st ∈ stmts.filter (·.table == e.id), ∃ text, st.render db q = .ok text :=
    fun st hst => Statement.render_of_grounded
      (grounded_statements hp hresolved hs st (List.mem_filter.mp hst).1)
  obtain ⟨texts, htexts⟩ := exists_mapM hall
  refine ⟨texts, htexts, ?_⟩
  rw [h.filter_statements hp hp' hresolved hresolved' hs hs' he, mapM_eq_ok,
    List.forall₂_map_left_iff]
  simp only [h.render]
  exact mapM_eq_ok.mp htexts

/-- All statements together have the same texts, perhaps in another order. -/
theorem perm_texts (q : Platform) :
    ∃ texts texts', stmts.mapM (·.render db q) = .ok texts ∧
      stmts'.mapM (·.render db' q) = .ok texts' ∧ texts'.Perm texts := by
  obtain ⟨texts, htexts⟩ := exists_mapM fun st hst =>
    Statement.render_of_grounded (p := q) (grounded_statements hp hresolved hs st hst)
  have hall : List.Forall₂ (fun st text => st.render db' q = .ok text)
      (stmts.map (Statement.renumber σ)) texts := by
    rw [List.forall₂_map_left_iff]
    simp only [h.render]
    exact mapM_eq_ok.mp htexts
  obtain ⟨texts', htexts', hperm⟩ := List.perm_comp_forall₂
    (h.perm_statements hp hp' hresolved hresolved' hs hs') hall
  exact ⟨texts, texts', htexts, mapM_eq_ok.mpr htexts', hperm⟩

end Scripts

end Renumbered

end Database

end SchemaDdl
