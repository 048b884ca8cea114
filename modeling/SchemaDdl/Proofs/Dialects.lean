import SchemaDdl.Proofs.Acceptance

/-!
# What a dialect changes in the resolved graph

The four dialects resolve one graph. PostgreSQL does exactly what the plain dialect does, SQLite
does the same or refuses, and MySQL adds indices of its own, entity by entity. The indices that
MySQL adds to one entity are seen by nobody else: what an entity becomes depends on the outline of
the database only, names of relations depend on tables and fields, and names of indices on their own
fields.

* **`Platform.normalize_congr`**: platforms that do the same with every entity do the same with a
  database.
* **`Entity.Supplemented`**: an entity with more indices at the end, none of them unique, and all
  under the names that are made for them.
* **`Database.supplemented_of_finalize`**: what MySQL leaves, beside what the plain dialect leaves.
-/

namespace SchemaDdl

/-- An entity with more indices at the end, none unique, under the names made for them. -/
def Entity.Supplemented (e e' : Entity) : Prop :=
  ∃ added, e' = { e with indices := e.indices ++ added } ∧
    ∀ index ∈ added, index.unique = false ∧ index.name = some (index.autoName e.table)

/-- A database whose entities are those of another one, supplemented. -/
structure Database.Supplemented (db db' : Database) : Prop where
  rest : { db' with entities := db.entities } = db
  entities : List.Forall₂ Entity.Supplemented db.entities db'.entities

-- ── Platforms that do the same ────────────────────────────────────────────────

namespace Platform

variable {p q : Platform}

/-- Platforms that do the same with every entity do the same with every list of entities. -/
theorem normalizeEntities_congr
    (h : ∀ id db, p.normalizeEntity id db = q.normalizeEntity id db) (ids : List EntityId)
    (db : Database) : p.normalizeEntities ids db = q.normalizeEntities ids db := by
  induction ids generalizing db with
  | nil => rfl
  | cons id ids ih =>
      have hrest : p.normalizeEntities ids = q.normalizeEntities ids := funext ih
      rw [normalizeEntities, normalizeEntities, h, hrest]

theorem normalize_congr (h : ∀ id db, p.normalizeEntity id db = q.normalizeEntity id db)
    (db : Database) : p.normalize db = q.normalize db :=
  normalizeEntities_congr h db.entityIds db

end Platform

namespace Database

variable {db d d' : Database} {p q : Platform}

/-- Finalizing asks a platform for nothing but the normalization. -/
theorem finalize_congr (h : ∀ id db, p.normalizeEntity id db = q.normalizeEntity id db)
    (db : Database) : db.finalize p = db.finalize q := by
  rw [finalize, finalize]
  cases db.bindRelations with
  | error e => rfl
  | ok bound =>
      dsimp only
      rw [Platform.normalize_congr h]

/-- Platforms other than SQLite accept the same databases. -/
theorem exists_finalize_of (hp : db.Placed) (hq : q.dialect ≠ .sqlite)
    (h : ∃ d, db.finalize p = (d, .ok ())) : ∃ d, db.finalize q = (d, .ok ()) := by
  obtain ⟨d, hok⟩ := h
  exact ⟨_, finalize_of_resolvable hp (resolvable_of_finalize hp hok).1 fun hs => absurd hs hq⟩

-- ── Indices that only MySQL adds ──────────────────────────────────────────────

/-- An entity with indices for its relations, all named, is the entity without them, all named,
    supplemented, if naming gives the relations the same names both times. -/
theorem supplemented_withRelationIndices {s : Entity}
    (hrelations : (s.withRelationIndices.namedIn d').relations = (s.namedIn d).relations) :
    (s.namedIn d).Supplemented (s.withRelationIndices.namedIn d') := by
  obtain ⟨added, hindices, hnames⟩ : ∃ added,
      (s.withRelationIndices.namedIn d').indices = (s.namedIn d).indices ++ added ∧
        ∀ index ∈ added, index.unique = false ∧ index.name = some (index.autoName s.table) := by
    refine ⟨(planIndices s.isIndexedByPrefix (relationNames s)).map fun names =>
      namedIndex s.table (.ofNames false names), ?_, fun index hindex => ?_⟩
    · show (s.indices ++ List.map _ _).map (namedIndex s.table) =
        s.indices.map (namedIndex s.table) ++ _
      rw [List.map_append, List.map_map]
      rfl
    · obtain ⟨names, -, rfl⟩ := List.mem_map.mp hindex
      exact ⟨rfl, rfl⟩
  refine ⟨added, ?_, hnames⟩
  have hrest : s.withRelationIndices.namedIn d' = { s.namedIn d with
      relations := (s.withRelationIndices.namedIn d').relations
      indices := (s.withRelationIndices.namedIn d').indices } := rfl
  rw [hrest, hrelations, hindices]

/-- What MySQL makes of a database is what the plain dialect makes of it, supplemented. -/
theorem supplemented_of_finalize {engine : String} {quotes quotes' : Bool} (hp : db.Placed)
    (hplain : db.finalize ⟨.generic, quotes⟩ = (d, .ok ()))
    (hmysql : db.finalize ⟨.mysql engine, quotes'⟩ = (d', .ok ())) : d.Supplemented d' := by
  have hfinal := finalize_entities hp hplain
  have hfinal' := finalize_entities hp hmysql
  have hd := finalize_eq_finalForm hp hplain
  have hd' := finalize_eq_finalForm hp hmysql
  subst hd hd'
  refine ⟨rfl, ?_⟩
  rw [entities_finalForm, List.forall₂_map_right_iff] at hfinal hfinal'
  rw [entities_finalForm, entities_finalForm, List.forall₂_map_left_iff,
    List.forall₂_map_right_iff]
  refine List.forall₂_same.mpr fun e he => supplemented_withRelationIndices ?_
  -- relations end up under the names that they had before, whatever the dialect
  exact (List.forall₂_same.mp hfinal' e he).relations.trans
    (List.forall₂_same.mp hfinal e he).relations.symm

-- ── The resolved graph ────────────────────────────────────────────────────────

/-- The plain dialect and PostgreSQL resolve a database in the same way, failures included. Where
    SQLite does not refuse, it does too. MySQL resolves the same databases, and what it leaves has
    the same graph with supplementary indices. -/
theorem finalize_dialects (h : db.Reachable) (engine : String) (quotes quotes' : Bool) :
    db.finalize ⟨.postgresql, quotes'⟩ = db.finalize ⟨.generic, quotes⟩ ∧
    (∀ d, db.finalize ⟨.sqlite, quotes'⟩ = (d, .ok ()) →
      db.finalize ⟨.generic, quotes⟩ = (d, .ok ())) ∧
    ((∃ d, db.finalize ⟨.mysql engine, quotes'⟩ = (d, .ok ())) ↔
      ∃ d, db.finalize ⟨.generic, quotes⟩ = (d, .ok ())) ∧
    ∀ d d', db.finalize ⟨.generic, quotes⟩ = (d, .ok ()) →
      db.finalize ⟨.mysql engine, quotes'⟩ = (d', .ok ()) → d.Supplemented d' := by
  have hp : db.Placed := h.sound.placed
  have hsame : db.finalize ⟨.postgresql, quotes'⟩ = db.finalize ⟨.generic, quotes⟩ :=
    @finalize_congr ⟨.postgresql, quotes'⟩ ⟨.generic, quotes⟩ (fun _ _ => rfl) db
  refine ⟨hsame, fun d hok => ?_, ?_, fun d d' hplain hmysql =>
    supplemented_of_finalize hp hplain hmysql⟩
  · obtain ⟨hresolvable, -⟩ := resolvable_of_finalize hp hok
    rw [finalize_eq_finalForm hp hok]
    exact finalize_of_resolvable hp hresolvable fun hs => nomatch hs
  · exact ⟨exists_finalize_of hp (fun hs => nomatch hs),
      exists_finalize_of hp (fun hs => nomatch hs)⟩

/-- The community without heavy indexing. -/
def lightCommunity : Database := (community.run (.assign [.heavyIndexing false])).1

/-- The plain dialect, PostgreSQL and SQLite make one thing of the light community. MySQL adds an
    index for the second key field of the junction, and nothing else. -/
theorem finalize_dialects_light :
    lightCommunity.Reachable ∧
    lightCommunity.finalize ⟨.postgresql, false⟩ = lightCommunity.finalize ⟨.generic, true⟩ ∧
    ∃ d d', lightCommunity.finalize ⟨.generic, true⟩ = (d, .ok ()) ∧
      lightCommunity.finalize ⟨.sqlite, false⟩ = (d, .ok ()) ∧
      lightCommunity.finalize ⟨.mysql "InnoDB", false⟩ = (d', .ok ()) ∧ d' ≠ d ∧
      d.Supplemented d' := by
  have hreach : lightCommunity.Reachable := community_reachable.run _
  obtain ⟨hpostgresql, hsqlite, hmysql, hsupplemented⟩ :=
    finalize_dialects hreach "InnoDB" true false
  have hok : lightCommunity.finalize ⟨.sqlite, false⟩ =
      ((lightCommunity.finalize ⟨.sqlite, false⟩).1, .ok ()) := Prod.ext rfl (by decide +kernel)
  obtain ⟨d', hd'⟩ := hmysql.mpr ⟨_, hsqlite _ hok⟩
  have hdifferent : (lightCommunity.finalize ⟨.mysql "InnoDB", false⟩).1 ≠
      (lightCommunity.finalize ⟨.sqlite, false⟩).1 := by decide +kernel
  rw [hd'] at hdifferent
  exact ⟨hreach, hpostgresql, _, d', hsqlite _ hok, hok, hd', hdifferent,
    hsupplemented _ d' (hsqlite _ hok) hd'⟩

end Database

end SchemaDdl
