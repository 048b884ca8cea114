import SchemaDdl.Proofs.Outline
import SchemaDdl.Proofs.Planning

/-!
# Normalized entities

An entity is settled for a platform when the platform has nothing more to do with it: its id method
can be kept, every list of names that is to be unique or indexed is, and nothing in it is refused.
This file shows both directions. Where a normalization goes through, all entities are settled after
it; and where all entities are settled, a normalization goes through and does nothing.

The step from one entity to the next needs that settled entities stay settled while others are
worked on. That is carried by **`Entity.Kept`**: an entity with the same outline, in a database with
the same outline, on which at least the same names are unique and indexed.

* **`Platform.normalize_settles`**, **`Platform.normalize_of_settled`**: the two directions.
-/

namespace SchemaDdl

/-- Every wanted list of names is empty or passes a test. -/
def Served (test : List String → Bool) (wanted : List (List String)) : Prop :=
  ∀ names ∈ wanted, names = [] ∨ test names = true

/-- One entity in one database still has what another one has in another: the outlines agree, and
    what was unique or indexed is so still. -/
structure Entity.Kept (db : Database) (e : Entity) (db' : Database) (e' : Entity) : Prop where
  database : db'.outline = db.outline
  outline : e'.outline = e.outline
  idMethod : e'.idMethod = e.idMethod ∨ e'.idMethod = some .none
  unique : ∀ names, e.hasUniqueOver names = true → e'.hasUniqueOver names = true
  indexed : ∀ names, e.isIndexedByPrefix names = true → e'.isIndexedByPrefix names = true

namespace Entity

-- ── Settled entities ──────────────────────────────────────────────────────────

/-- Native ids are left only where a key field is auto-incremented. -/
def IdSettled (db : Database) (e : Entity) : Prop :=
  e.idMethodIn db = .native → e.autoIncrementKey?.isSome = true

/-- Local fields of relations with an inverse are unique. -/
def InverseSettled (db : Database) (e : Entity) : Prop :=
  Served e.hasUniqueOver (db.inverseNames e)

/-- With heavy indexing, key fields after the first lead some index. -/
def HeavySettled (db : Database) (e : Entity) : Prop :=
  e.heavyIndexingIn db = true → Served e.isIndexedByPrefix (Database.heavyNames e)

/-- Local fields of relations that statements are made for lead some index. -/
def RelationsSettled (e : Entity) : Prop :=
  Served e.isIndexedByPrefix (Database.relationNames e)

/-- A platform has nothing more to do with an entity. -/
structure Settled (p : Platform) (db : Database) (e : Entity) : Prop where
  ids : e.IdSettled db
  inverses : e.InverseSettled db
  heavy : e.HeavySettled db
  relations : ∀ engine, p.dialect = .mysql engine → e.RelationsSettled
  accepted : p.dialect = .sqlite → e.sqliteRefusal? = none

/-- Names that pass a test pass any test that asks for less. -/
theorem served_mono {test test' : List String → Bool} {wanted : List (List String)}
    (htest : ∀ names, test names = true → test' names = true) (h : Served test wanted) :
    Served test' wanted := fun names hnames =>
  (h names hnames).imp_right (htest names)

namespace Kept

variable {db db' : Database} {e e' : Entity}

theorem refl (db : Database) (e : Entity) : Kept db e db e :=
  ⟨rfl, rfl, Or.inl rfl, fun _ h => h, fun _ h => h⟩

/-- Growth keeps an entity. -/
theorem of_grows (hdb : db.Grows db') (he : e.Grows e') : Kept db e db' e' where
  database := hdb.outline
  outline := he.outline
  idMethod := he.idMethod
  unique := fun _ => hasUniqueOver_mono he.fields he.indices.subset
  indexed := fun _ => isIndexedByPrefix_mono he.fields he.indices.subset

/-- Native ids do not come back: the id method is what it was, or given up. -/
theorem idSettled (h : Kept db e db' e') (hs : e.IdSettled db) : e'.IdSettled db' := by
  intro hnative
  have hkey : e'.autoIncrementKey? = e.autoIncrementKey? :=
    (congrArg autoIncrementKey? h.outline :)
  have hdefault : db'.defaultIdMethod = db.defaultIdMethod :=
    (congrArg Database.defaultIdMethod h.database :)
  rw [hkey]
  refine hs ?_
  rcases h.idMethod with hsame | hnone
  · rw [idMethodIn, hsame, hdefault] at hnative
    exact hnative
  · rw [idMethodIn, hnone] at hnative
    exact nomatch hnative

/-- Which relations have an inverse can be read off the outlines; what was unique stays unique. -/
theorem inverseSettled (h : Kept db e db' e') (hs : e.InverseSettled db) :
    e'.InverseSettled db' := by
  have hnames : db'.inverseNames e' = db.inverseNames e := by
    rw [← Database.inverseNames_outline, h.database, h.outline, Database.inverseNames_outline]
  rw [InverseSettled, hnames]
  exact served_mono h.unique hs

/-- Whether there is heavy indexing, and over which fields, can be read off the outlines too. -/
theorem heavySettled (h : Kept db e db' e') (hs : e.HeavySettled db) : e'.HeavySettled db' := by
  intro hheavy
  have hswitch : e'.heavyIndexing = e.heavyIndexing := (congrArg Entity.heavyIndexing h.outline :)
  have hdefault : db'.heavyIndexing = db.heavyIndexing :=
    (congrArg Database.heavyIndexing h.database :)
  have hnames : Database.heavyNames e' = Database.heavyNames e :=
    (congrArg Database.heavyNames h.outline :)
  rw [heavyIndexingIn, hswitch, hdefault] at hheavy
  rw [hnames]
  exact served_mono h.indexed (hs hheavy)

/-- Relations keep their local fields, and these keep their index. -/
theorem relationsSettled (h : Kept db e db' e') (hs : e.RelationsSettled) :
    e'.RelationsSettled := by
  have hnames : Database.relationNames e' = Database.relationNames e := by
    rw [← Database.relationNames_outline, h.outline, Database.relationNames_outline]
  rw [RelationsSettled, hnames]
  exact served_mono h.indexed hs

theorem sqliteRefusal? (h : Kept db e db' e') : e'.sqliteRefusal? = e.sqliteRefusal? :=
  (congrArg Entity.sqliteRefusal? h.outline :)

/-- A settled entity stays settled. -/
theorem settled (h : Kept db e db' e') {p : Platform} (hs : e.Settled p db) :
    e'.Settled p db' where
  ids := h.idSettled hs.ids
  inverses := h.inverseSettled hs.inverses
  heavy := h.heavySettled hs.heavy
  relations := fun engine hp => h.relationsSettled (hs.relations engine hp)
  accepted := fun hp => h.sqliteRefusal?.trans (hs.accepted hp)

end Kept

end Entity

-- ── Outcomes ──────────────────────────────────────────────────────────────────

/-- Two steps go through if the first does and then the second. -/
theorem Outcome.andThen_eq_ok {o : Outcome} {next : Database → Outcome} {db : Database}
    (h : o.andThen next = (db, .ok ())) :
    ∃ mid, o = (mid, .ok ()) ∧ next mid = (db, .ok ()) := by
  obtain ⟨mid, reply⟩ := o
  cases reply with
  | error f => exact nomatch congrArg Prod.snd h
  | ok _ => exact ⟨mid, rfl, h⟩

namespace Database

variable {db db' : Database} {id : EntityId} {e : Entity}

/-- An action on an entity can go through only if the entity is there. -/
theorem withEntity_eq_ok {act : Entity → Outcome} (h : db.withEntity id act = (db', .ok ())) :
    ∃ e, db.entity? id = some e ∧ act e = (db', .ok ()) := by
  rw [withEntity] at h
  cases he : db.entity? id with
  | none =>
      rw [he] at h
      injection h with _ hreply
      cases hreply
  | some e =>
      rw [he] at h
      exact ⟨e, rfl, h⟩

theorem withEntity_of_some {act : Entity → Outcome} (he : db.entity? id = some e) :
    db.withEntity id act = act e := by
  rw [withEntity, he]

/-- A change that goes through leaves the changed entity under the id. -/
theorem updateEntity_eq_ok {change : Entity → Except Violation Entity}
    (h : db.updateEntity id change = (db', .ok ())) :
    ∃ e e', db.entity? id = some e ∧ change e = .ok e' ∧ db'.entity? id = some e' := by
  rcases updateEntity_cases db id change with
    ⟨-, heq⟩ | ⟨e, v, -, -, heq⟩ | ⟨i, e, e', hid, he, hc, heq⟩
  · rw [heq] at h
    exact nomatch congrArg Prod.snd h
  · rw [heq] at h
    exact nomatch congrArg Prod.snd h
  · rw [heq] at h
    subst hid
    refine ⟨e, e', he, hc, ?_⟩
    injection h with hdb
    rw [← hdb]
    have hlt : i < db.entities.length := (List.getElem?_eq_some_iff.mp he).1
    exact List.getElem?_set_self hlt

-- ── Steps that go through ─────────────────────────────────────────────────────

/-- Indices that are added are there afterwards. -/
theorem mem_of_addIndices {unique : Bool} {planned : List (List String)}
    (h : addIndices id unique planned db = (db', .ok ())) {q : List String} (hq : q ∈ planned)
    (he : db'.entity? id = some e) : Index.ofNames unique q ∈ e.indices := by
  induction planned generalizing db with
  | nil => exact nomatch hq
  | cons names rest ih =>
      obtain ⟨mid, hfirst, hrest⟩ := Outcome.andThen_eq_ok h
      rcases List.mem_cons.mp hq with rfl | hq
      · obtain ⟨e₀, e₁, -, hadd, he₁⟩ := updateEntity_eq_ok hfirst
        have hgrows : mid.Grows db' := (addIndices_grows id unique rest mid).of_eq hrest
        refine (hgrows.grown he₁ he).indices.subset ?_
        rw [Entity.addIndex_eq_ok hadd]
        exact List.mem_append_right _ (List.mem_singleton.mpr rfl)
      · exact ih hrest hq

/-- Adding what was planned serves all that was wanted, if an index over a list makes the test true
    for whatever the list matches, and the test stays true under growth. -/
theorem addIndices_serves {unique : Bool} (test : Entity → List String → Bool)
    {wanted : List (List String)}
    (hmatch : ∀ (e : Entity) (others names : List String), names ≠ [] →
      Index.ofNames unique others ∈ e.indices → sameNames others names = true →
      test e names = true)
    (hmono : ∀ (e e' : Entity), e.Grows e' → ∀ names, test e names = true → test e' names = true)
    (he : db.entity? id = some e)
    (h : addIndices id unique (planIndices (test e) wanted) db = (db', .ok ())) :
    ∃ e', db'.entity? id = some e' ∧ e.Grows e' ∧ Served (test e') wanted := by
  have hgrows : db.Grows db' := (addIndices_grows id unique _ db).of_eq h
  obtain ⟨e', he', hgrown⟩ := hgrows.entity? he
  refine ⟨e', he', hgrown, fun names hnames => ?_⟩
  by_cases hnil : names = []
  · exact Or.inl hnil
  · refine Or.inr ?_
    rcases planIndices_complete (test e) hnames with hn | hsat | ⟨q, hq, hsame⟩
    · exact absurd hn hnil
    · exact hmono e e' hgrown names hsat
    · exact hmatch e' q names hnil (mem_of_addIndices h hq he') hsame

/-- Afterwards a key field is auto-incremented or native ids are given up. -/
theorem fixIdMethod_settles (h : db.fixIdMethod id = (db', .ok ())) :
    ∃ e, db'.entity? id = some e ∧ e.IdSettled db' := by
  obtain ⟨e, he, hact⟩ := withEntity_eq_ok h
  split at hact
  · obtain ⟨e₀, e₁, -, hchange, he₁⟩ := updateEntity_eq_ok hact
    injection hchange with hchange
    refine ⟨e₁, he₁, fun hnative => ?_⟩
    rw [← hchange] at hnative
    exact nomatch hnative
  · rename_i hneed
    injection hact with hdb
    subst hdb
    refine ⟨e, he, fun hnative => ?_⟩
    cases hkey : e.autoIncrementKey? with
    | none => exact absurd ⟨hnative, by rw [hkey]; rfl⟩ hneed
    | some f => rfl

/-- The local fields of relations with an inverse are unique after the step for them. -/
theorem ensureInverseIndices_settles (h : db.ensureInverseIndices id = (db', .ok ())) :
    ∃ e, db'.entity? id = some e ∧ e.InverseSettled db' := by
  have hgrows : db.Grows db' := (ensureInverseIndices_grows id db).of_eq h
  obtain ⟨e, he, hact⟩ := withEntity_eq_ok h
  obtain ⟨e', he', hgrown, hserved⟩ := addIndices_serves Entity.hasUniqueOver
    (fun _ _ _ _ => Entity.hasUniqueOver_of_sameNames)
    (fun _ _ hg _ => Entity.hasUniqueOver_mono hg.fields hg.indices.subset) he hact
  refine ⟨e', he', ?_⟩
  -- the lists that are wanted are those of the earlier state
  have hnames : db'.inverseNames e' = db.inverseNames e := by
    rw [← inverseNames_outline, hgrows.outline, hgrown.outline, inverseNames_outline]
  rw [Entity.InverseSettled, hnames]
  exact hserved

/-- Adding what was planned for leading fields serves all that was wanted. -/
theorem addIndices_servesPrefixes {wanted : List (List String)} (he : db.entity? id = some e)
    (h : addIndices id false (planIndices e.isIndexedByPrefix wanted) db = (db', .ok ())) :
    ∃ e', db'.entity? id = some e' ∧ e.Grows e' ∧ Served e'.isIndexedByPrefix wanted :=
  addIndices_serves Entity.isIndexedByPrefix
    (fun _ _ _ => Entity.isIndexedByPrefix_of_sameNames)
    (fun _ _ hg _ => Entity.isIndexedByPrefix_mono hg.fields hg.indices.subset) he h

/-- Afterwards the local fields of relations that statements are made for lead some index. -/
theorem ensureRelationIndices_settles (h : db.ensureRelationIndices id = (db', .ok ())) :
    ∃ e, db'.entity? id = some e ∧ e.RelationsSettled := by
  obtain ⟨e, he, hact⟩ := withEntity_eq_ok h
  obtain ⟨e', he', hgrown, hserved⟩ := addIndices_servesPrefixes he hact
  refine ⟨e', he', ?_⟩
  have hnames : relationNames e' = relationNames e := by
    rw [← relationNames_outline, hgrown.outline, relationNames_outline]
  rw [Entity.RelationsSettled, hnames]
  exact hserved

/-- Afterwards key fields after the first lead some index, if heavy indexing is asked for. -/
theorem ensureHeavyIndices_settles (h : db.ensureHeavyIndices id = (db', .ok ())) :
    ∃ e, db'.entity? id = some e ∧ e.HeavySettled db' := by
  have hgrows : db.Grows db' := (ensureHeavyIndices_grows id db).of_eq h
  obtain ⟨e, he, hact⟩ := withEntity_eq_ok h
  split at hact
  · obtain ⟨e', he', hgrown, hserved⟩ := addIndices_servesPrefixes he hact
    refine ⟨e', he', fun _ => ?_⟩
    have hnames : heavyNames e' = heavyNames e := (congrArg heavyNames hgrown.outline :)
    rw [hnames]
    exact hserved
  · rename_i hlight
    injection hact with hdb
    subst hdb
    exact ⟨e, he, fun hheavy => absurd hheavy hlight⟩

/-- After the steps that all platforms share, the entity needs none of them. -/
theorem normalizeEntity_settles (h : db.normalizeEntity id = (db', .ok ())) :
    ∃ e, db'.entity? id = some e ∧ e.IdSettled db' ∧ e.InverseSettled db' ∧
      e.HeavySettled db' := by
  obtain ⟨db₂, htwo, hheavy⟩ := Outcome.andThen_eq_ok h
  obtain ⟨db₁, hone, hinverse⟩ := Outcome.andThen_eq_ok htwo
  have hgrows₂ : db₁.Grows db₂ := (ensureInverseIndices_grows id db₁).of_eq hinverse
  have hgrows₃ : db₂.Grows db' := (ensureHeavyIndices_grows id db₂).of_eq hheavy
  obtain ⟨e₁, he₁, hids⟩ := fixIdMethod_settles hone
  obtain ⟨e₂, he₂, hinverses⟩ := ensureInverseIndices_settles hinverse
  obtain ⟨e₃, he₃, hheavies⟩ := ensureHeavyIndices_settles hheavy
  -- what an earlier step settled is kept by the later ones
  have hkept₂ : Entity.Kept db₁ e₁ db₂ e₂ := .of_grows hgrows₂ (hgrows₂.grown he₁ he₂)
  have hkept₃ : Entity.Kept db₂ e₂ db' e₃ := .of_grows hgrows₃ (hgrows₃.grown he₂ he₃)
  exact ⟨e₃, he₃, hkept₃.idSettled (hkept₂.idSettled hids), hkept₃.inverseSettled hinverses,
    hheavies⟩

-- ── Steps with nothing to do ──────────────────────────────────────────────────

/-- An id method that is settled is left as it is, and the finalized flag with it. -/
theorem fixIdMethod_of_settled (he : db.entity? id = some e) (hs : e.IdSettled db) :
    db.fixIdMethod id = (db, .ok ()) := by
  rw [fixIdMethod, withEntity_of_some he]
  refine if_neg fun hneed => ?_
  have hkey := hs hneed.1
  rw [Option.isNone_iff_eq_none.mp hneed.2] at hkey
  exact nomatch hkey

theorem ensureInverseIndices_of_settled (he : db.entity? id = some e)
    (hs : e.InverseSettled db) : db.ensureInverseIndices id = (db, .ok ()) := by
  rw [ensureInverseIndices, withEntity_of_some he, planIndices_eq_nil hs]
  rfl

theorem ensureRelationIndices_of_settled (he : db.entity? id = some e)
    (hs : e.RelationsSettled) : db.ensureRelationIndices id = (db, .ok ()) := by
  rw [ensureRelationIndices, withEntity_of_some he, planIndices_eq_nil hs]
  rfl

/-- No index is planned if all of them are there, or if none is wanted. -/
theorem ensureHeavyIndices_of_settled (he : db.entity? id = some e) (hs : e.HeavySettled db) :
    db.ensureHeavyIndices id = (db, .ok ()) := by
  rw [ensureHeavyIndices, withEntity_of_some he]
  split
  · rename_i hheavy
    rw [planIndices_eq_nil (hs hheavy)]
    rfl
  · rfl

/-- None of the steps that all platforms have touches a database if the entity needs nothing. -/
theorem normalizeEntity_of_settled (he : db.entity? id = some e) (hids : e.IdSettled db)
    (hinverses : e.InverseSettled db) (hheavy : e.HeavySettled db) :
    db.normalizeEntity id = (db, .ok ()) := by
  rw [normalizeEntity, fixIdMethod_of_settled he hids]
  show (db.ensureInverseIndices id).andThen (ensureHeavyIndices id) = _
  rw [ensureInverseIndices_of_settled he hinverses]
  exact ensureHeavyIndices_of_settled he hheavy

end Database

-- ── Platforms ─────────────────────────────────────────────────────────────────

namespace Platform

variable {p : Platform} {db db' : Database} {id : EntityId} {e : Entity}

/-- An entity whose normalization went through is settled. -/
theorem normalizeEntity_settles (h : p.normalizeEntity id db = (db', .ok ())) :
    ∃ e, db'.entity? id = some e ∧ e.Settled p db' := by
  -- a dialect with nothing beyond the shared steps
  have hshared : (∀ engine, p.dialect ≠ .mysql engine) →
      (p.dialect = .sqlite → ∀ e, db'.entity? id = some e → e.sqliteRefusal? = none) →
      db.normalizeEntity id = (db', .ok ()) → ∃ e, db'.entity? id = some e ∧ e.Settled p db' := by
    intro hmysql hsqlite hrun
    obtain ⟨e, he, hids, hinverses, hheavy⟩ := Database.normalizeEntity_settles hrun
    exact ⟨e, he, hids, hinverses, hheavy, fun engine hm => absurd hm (hmysql engine),
      fun hl => hsqlite hl e he⟩
  rw [normalizeEntity] at h
  cases hp : p.dialect with
  | generic =>
      rw [hp] at h
      exact hshared (by simp [hp]) (by simp [hp]) h
  | postgresql =>
      rw [hp] at h
      exact hshared (by simp [hp]) (by simp [hp]) h
  | mysql engine =>
      rw [hp] at h
      obtain ⟨mid, hfirst, hlast⟩ := Outcome.andThen_eq_ok h
      obtain ⟨e, he, hids, hinverses, hheavy⟩ := Database.normalizeEntity_settles hfirst
      have hgrows : mid.Grows db' :=
        (Database.ensureRelationIndices_grows id mid).of_eq hlast
      obtain ⟨e', he', hrelations⟩ := Database.ensureRelationIndices_settles hlast
      have hkept : Entity.Kept mid e db' e' := .of_grows hgrows (hgrows.grown he he')
      refine ⟨e', he', hkept.idSettled hids, hkept.inverseSettled hinverses,
        hkept.heavySettled hheavy, fun _ _ => hrelations, fun hl => ?_⟩
      rw [hp] at hl
      cases hl
  | sqlite =>
      rw [hp] at h
      obtain ⟨e, he, hact⟩ := Database.withEntity_eq_ok h
      cases hrefusal : e.sqliteRefusal? with
      | some r =>
          rw [hrefusal] at hact
          injection hact with _ hreply
          cases hreply
      | none =>
          rw [hrefusal] at hact
          refine hshared (by simp [hp]) (fun _ e' he' => ?_) hact
          have hgrows : db.Grows db' := (db.normalizeEntity_grows id).of_eq hact
          have hkept : Entity.Kept db e db' e' := .of_grows hgrows (hgrows.grown he he')
          exact hkept.sqliteRefusal?.trans hrefusal

/-- A platform has nothing to do with an entity that it has settled, and does nothing. -/
theorem normalizeEntity_of_settled (he : db.entity? id = some e) (hs : e.Settled p db) :
    p.normalizeEntity id db = (db, .ok ()) := by
  have hshared := Database.normalizeEntity_of_settled he hs.ids hs.inverses hs.heavy
  rw [normalizeEntity]
  cases hp : p.dialect with
  | generic => exact hshared
  | postgresql => exact hshared
  | mysql engine =>
      show (db.normalizeEntity id).andThen (Database.ensureRelationIndices id) = _
      rw [hshared]
      exact Database.ensureRelationIndices_of_settled he (hs.relations engine hp)
  | sqlite =>
      show db.withEntity id _ = _
      rw [Database.withEntity_of_some he, hs.accepted hp]
      exact hshared

/-- After a run over some entities, all of them are settled: each is when its turn has passed, and
    what comes after only lets the database grow. -/
theorem normalizeEntities_settles {ids : List EntityId}
    (h : p.normalizeEntities ids db = (db', .ok ())) :
    ∀ id ∈ ids, ∃ e, db'.entity? id = some e ∧ e.Settled p db' := by
  induction ids generalizing db with
  | nil => exact fun _ hid => nomatch hid
  | cons id ids ih =>
      obtain ⟨mid, hfirst, hrest⟩ := Outcome.andThen_eq_ok h
      intro id' hid'
      rcases List.mem_cons.mp hid' with rfl | hid'
      · obtain ⟨e, he, hsettled⟩ := normalizeEntity_settles hfirst
        have hgrows : mid.Grows db' := (p.normalizeEntities_grows ids mid).of_eq hrest
        obtain ⟨e', he', hgrown⟩ := hgrows.entity? he
        exact ⟨e', he', (Entity.Kept.of_grows hgrows hgrown).settled hsettled⟩
      · exact ih hrest id' hid'

/-- A normalization that goes through leaves all entities settled. -/
theorem normalize_settles (h : p.normalize db = (db', .ok ())) :
    ∀ e ∈ db'.entities, e.Settled p db' := by
  intro e he
  obtain ⟨i, hi⟩ := List.getElem?_of_mem he
  have hgrows : db.Grows db' := (p.normalize_grows db).of_eq h
  have hid : some i ∈ db.entityIds := by
    rw [← hgrows.entityIds]
    have hlt : i < db'.entities.length := (List.getElem?_eq_some_iff.mp hi).1
    exact List.mem_map.mpr ⟨i, List.mem_range.mpr hlt, rfl⟩
  obtain ⟨e', he', hsettled⟩ := normalizeEntities_settles h (some i) hid
  have hsame : e = e' := Option.some.inj (hi.symm.trans he')
  rw [hsame]
  exact hsettled

/-- A run over settled entities goes through and does nothing. -/
theorem normalizeEntities_of_settled {ids : List EntityId}
    (hs : ∀ id ∈ ids, ∃ e, db.entity? id = some e ∧ e.Settled p db) :
    p.normalizeEntities ids db = (db, .ok ()) := by
  induction ids with
  | nil => rfl
  | cons id ids ih =>
      obtain ⟨e, he, hsettled⟩ := hs id List.mem_cons_self
      rw [normalizeEntities, normalizeEntity_of_settled he hsettled]
      exact ih fun id' hid' => hs id' (List.mem_cons_of_mem id hid')

/-- Where all entities are settled, a normalization goes through and does nothing. -/
theorem normalize_of_settled (hs : ∀ e ∈ db.entities, e.Settled p db) :
    p.normalize db = (db, .ok ()) := by
  refine normalizeEntities_of_settled fun id hid => ?_
  obtain ⟨i, hi, rfl⟩ := List.mem_map.mp hid
  have hlt : i < db.entities.length := List.mem_range.mp hi
  exact ⟨db.entities[i], List.getElem?_eq_getElem hlt, hs _ (List.getElem_mem hlt)⟩

end Platform

end SchemaDdl
