import SchemaDdl.Proofs.Script

/-!
# Where foreign keys stand

Dialects disagree on where a foreign key stands: inside the table it belongs to, or behind all
tables. They also disagree on how a table is dropped. Nothing else in the statements of a database
depends on the platform, neither what they are and in which order they come nor whether there are
any.

* **`Statement.bare?`**: a statement without what dialects disagree on.
* **`Statement.Regrouped`**: two scripts of the same bare statements with the same foreign keys.
* **`Statement.Arranged`**: drops in reverse order of creation, then tables, then foreign keys.

The main result compares the statements of one database on any two platforms.
-/

namespace SchemaDdl

namespace Statement

/-- The table that a statement drops. -/
def dropped? : Statement → Option EntityId
  | .dropTable id _ _ => some id
  | _ => none

/-- Whether a statement adds a foreign key to a table that is there already. -/
def Adds : Statement → Prop
  | .addForeignKey _ => True
  | _ => False

/-- A statement without what dialects disagree on. Added foreign keys are left out, tables come
    without theirs, and drops do not say whether they cascade. -/
def bare? : Statement → Option Statement
  | .createTable id _ => some (.createTable id [])
  | .createIndex id position => some (.createIndex id position)
  | .dropTable id ifExists _ => some (.dropTable id ifExists false)
  | .addForeignKey _ => none

/-- Two scripts do the same and have the same foreign keys in the same order, though perhaps in
    other places. -/
structure Regrouped (stmts stmts' : List Statement) : Prop where
  bare : stmts.filterMap bare? = stmts'.filterMap bare?
  foreignKeys : stmts.flatMap foreignKeys = stmts'.flatMap foreignKeys

/-- Foreign keys are added behind everything else. Tables are dropped before everything else, those
    that are created and in reverse order, or not at all. -/
structure Arranged (dropTables : Bool) (stmts : List Statement) : Prop where
  addsLast : stmts.Pairwise fun a b => a.Adds → b.Adds
  dropsFirst : stmts.Pairwise fun a b => a.dropped? = none → b.dropped? = none
  dropped : stmts.filterMap dropped? =
    if dropTables then (stmts.filterMap created?).reverse else []

end Statement

/-- A list whose last part has a property that its first part has not: from where the property holds
    it holds to the end. -/
theorem pairwise_of_append {α : Type} {P : α → Prop} {l l' : List α} (h : ∀ a ∈ l, ¬ P a)
    (h' : ∀ a ∈ l', P a) : (l ++ l').Pairwise fun a b => P a → P b := by
  induction l with
  | nil => exact List.pairwise_of_forall_mem_list fun _ _ b hb _ => h' b hb
  | cons a l ih =>
      refine List.pairwise_cons.mpr ⟨?_, ih fun b hb => h b (List.mem_cons_of_mem a hb)⟩
      intro b _ ha
      exact absurd ha (h a List.mem_cons_self)

namespace Database

variable {db : Database} {p q : Platform} {s t : Settings} {stmts : List Statement}
  {tables : List (Entity × List ForeignKey)}

-- ── Parts of a script without what dialects disagree on ───────────────────────

/-- Whether dropping cascades is what dialects disagree on, and nothing else. -/
theorem filterMap_bare_drops : (db.dropsOf p s).filterMap Statement.bare? =
    if s.dropTables then db.emitted.reverse.map fun e => .dropTable e.id true false else [] := by
  rw [dropsOf]
  split
  · rw [dropStatements, List.filterMap_map]
    exact congrFun (List.filterMap_eq_map (f := fun e : Entity =>
      Statement.dropTable e.id true false)) _
  · rfl

/-- Tables and indices are the same on all platforms once foreign keys are taken out. -/
theorem filterMap_bare_tables :
    (tables.flatMap fun t => tableStatements p t.1 t.2).filterMap Statement.bare? =
      tables.flatMap fun t => .createTable t.1.id [] ::
        (List.range t.1.indices.length).map (.createIndex t.1.id) := by
  rw [List.filterMap_flatMap]
  refine List.flatMap_congr fun t _ => ?_
  rw [tableStatements, List.filterMap_cons_some (f := Statement.bare?) rfl, List.filterMap_map]
  exact congrArg _ (congrFun (List.filterMap_eq_map (f := Statement.createIndex t.1.id)) _)

/-- Foreign keys that are added at the end are taken out altogether. -/
theorem filterMap_bare_deferred (keys : List ForeignKey) :
    (deferredStatements p keys).filterMap Statement.bare? = [] := by
  rw [deferredStatements]
  split
  · rfl
  · refine List.filterMap_eq_nil_iff.mpr ?_
    intro st hst
    obtain ⟨key, -, rfl⟩ := List.mem_map.mp hst
    rfl

-- ── Scripts of one database ───────────────────────────────────────────────────

/-- Without what dialects disagree on, a script depends on its tables and drops alone. -/
theorem filterMap_bare_scriptOf : (db.scriptOf p s tables).filterMap Statement.bare? =
    (if s.dropTables then db.emitted.reverse.map fun e => .dropTable e.id true false else []) ++
      tables.flatMap fun t => .createTable t.1.id [] ::
        (List.range t.1.indices.length).map (.createIndex t.1.id) := by
  rw [scriptOf, List.filterMap_append, List.filterMap_append, filterMap_bare_drops,
    filterMap_bare_tables, filterMap_bare_deferred, List.append_nil]

/-- Statements for tables neither drop anything nor add to what is there already. -/
theorem mem_tables {st : Statement} (h : st ∈ tables.flatMap fun t => tableStatements p t.1 t.2) :
    st.dropped? = none ∧ ¬ st.Adds := by
  obtain ⟨t, -, hst⟩ := List.mem_flatMap.mp h
  rcases List.mem_cons.mp hst with rfl | hindex
  · exact ⟨rfl, id⟩
  · obtain ⟨i, -, rfl⟩ := List.mem_map.mp hindex
    exact ⟨rfl, id⟩

/-- What stands at the end drops nothing and adds a foreign key. -/
theorem mem_deferred {keys : List ForeignKey} {st : Statement}
    (h : st ∈ deferredStatements p keys) : st.dropped? = none ∧ st.Adds := by
  rw [deferredStatements] at h
  split at h
  · exact absurd h List.not_mem_nil
  · obtain ⟨key, -, rfl⟩ := List.mem_map.mp h
    exact ⟨rfl, trivial⟩

/-- Only the first part of a script drops anything. -/
theorem dropped_of_mem_rest {keys : List ForeignKey} {st : Statement}
    (h : st ∈ tables.flatMap (fun t => tableStatements p t.1 t.2) ++ deferredStatements p keys) :
    st.dropped? = none := by
  rcases List.mem_append.mp h with htable | hdeferred
  · exact (mem_tables htable).1
  · exact (mem_deferred hdeferred).1

/-- Scripts are arranged. -/
theorem arranged_scriptOf (htables : tables.map Prod.fst = db.emitted) :
    Statement.Arranged s.dropTables (db.scriptOf p s tables) where
  addsLast := by
    rw [scriptOf]
    refine pairwise_of_append (fun st hst => ?_) fun st hst => (mem_deferred hst).2
    rcases List.mem_append.mp hst with hdrop | htable
    · obtain ⟨e, -, rfl⟩ := mem_drops hdrop
      exact id
    · exact (mem_tables htable).2
  dropsFirst := by
    rw [scriptOf, List.append_assoc]
    refine pairwise_of_append (fun st hst => ?_) fun st hst => dropped_of_mem_rest hst
    obtain ⟨e, -, rfl⟩ := mem_drops hst
    exact Option.some_ne_none _
  dropped := by
    have hrest : (tables.flatMap (fun t => tableStatements p t.1 t.2) ++
        deferredStatements p (tables.flatMap (·.2))).filterMap Statement.dropped? = [] :=
      List.filterMap_eq_nil_iff.mpr fun _ hst => dropped_of_mem_rest hst
    rw [filterMap_created_scriptOf, htables, scriptOf, List.append_assoc, List.filterMap_append,
      hrest, List.append_nil, dropsOf]
    split
    · rw [dropStatements, List.filterMap_map, ← List.map_reverse]
      exact congrFun (List.filterMap_eq_map (f := fun e : Entity => e.id)) _
    · rfl

/-- On any two platforms, and with the same wish for drops, a database has no statements for the
    same reason, or it has the same statements up to the places of its foreign keys and the way in
    which tables are dropped. On both, foreign keys are added last, and the tables that are created
    are dropped first and in reverse order if that is wished for. -/
theorem statements_regrouped (db : Database) (p q : Platform) {s t : Settings}
    (hdrops : s.dropTables = t.dropTables) :
    (∃ e, db.statements p s = .error e ∧ db.statements q t = .error e) ∨
      ∃ stmts stmts', db.statements p s = .ok stmts ∧ db.statements q t = .ok stmts' ∧
        Statement.Regrouped stmts stmts' ∧ Statement.Arranged s.dropTables stmts ∧
        Statement.Arranged t.dropTables stmts' := by
  rw [statements_eq, statements_eq]
  cases htables : db.tablesOf db.emitted with
  | error e => exact .inl ⟨e, rfl, rfl⟩
  | ok tables =>
      have hemitted := map_fst_tablesOf htables
      refine .inr ⟨_, _, rfl, rfl, ⟨?_, ?_⟩, arranged_scriptOf hemitted,
        arranged_scriptOf hemitted⟩
      · rw [filterMap_bare_scriptOf, filterMap_bare_scriptOf, hdrops]
      · rw [flatMap_keys_scriptOf, flatMap_keys_scriptOf]

/-- The finalized community has a shorter script for MySQL than for PostgreSQL, where foreign keys
    are statements of their own, and what is said of both holds. -/
theorem statements_regrouped_community :
    ∃ (d : Database) (stmts stmts' : List Statement), d.Reachable ∧
      d.statements ⟨.mysql "InnoDB", false⟩ ⟨none, true, "InnoDB"⟩ = .ok stmts ∧
      d.statements ⟨.postgresql, true⟩ ⟨some true, true, "MyISAM"⟩ = .ok stmts' ∧
      stmts.length < stmts'.length ∧ Statement.Regrouped stmts stmts' ∧
      Statement.Arranged true stmts ∧ Statement.Arranged true stmts' := by
  have hreachable : (community.finalize ⟨.postgresql, true⟩).1.Reachable :=
    community_reachable.run (.finalize ⟨.postgresql, true⟩)
  have hlengths : ((community.finalize ⟨.postgresql, true⟩).1.statements ⟨.mysql "InnoDB", false⟩
        ⟨none, true, "InnoDB"⟩).toOption.map (·.length) = some 9 ∧
      ((community.finalize ⟨.postgresql, true⟩).1.statements ⟨.postgresql, true⟩
        ⟨some true, true, "MyISAM"⟩).toOption.map (·.length) = some 13 := by decide +kernel
  rcases statements_regrouped (community.finalize ⟨.postgresql, true⟩).1 ⟨.mysql "InnoDB", false⟩
      ⟨.postgresql, true⟩ (s := ⟨none, true, "InnoDB"⟩) (t := ⟨some true, true, "MyISAM"⟩) rfl with
    ⟨e, herror, -⟩ | ⟨stmts, stmts', hstmts, hstmts', hregrouped, harranged, harranged'⟩
  · rw [herror] at hlengths
    exact nomatch hlengths.1
  · rw [hstmts, hstmts'] at hlengths
    have hlength : stmts.length = 9 := Option.some.inj hlengths.1
    have hlength' : stmts'.length = 13 := Option.some.inj hlengths.2
    exact ⟨_, stmts, stmts', hreachable, hstmts, hstmts', by omega, hregrouped, harranged,
      harranged'⟩

end Database

end SchemaDdl
