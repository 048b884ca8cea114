import SchemaDdl.Proofs.Acceptance

/-!
# What normalization guarantees

Three steps work on every entity, one after the other, and each plans its indices against the entity
that the step before has left. What they come to can be said without them: what holds of a finalized
entity, and what it has that the entity did not have before.

* **`StartsWith`**, **`Entity.isIndexedByPrefix_iff`**: what it means that names lead an index.
* **`Entity.Guaranteed`**: ids, key fields and local fields of a finalized entity.
* **`Entity.Completes`**: a finalized entity beside the one from before. Nothing is lost, and every
  new index is over the local fields of a relation or over one key field.
* **`Entity.Appends`**: entities that differ in new indices of a given kind. Every step of a
  normalization is of this form, and so is the whole of it (`Entity.appends_normalizedIn`).
-/

namespace SchemaDdl

/-- Some names, in whatever order, come first in a list. -/
structure StartsWith (l names : List String) : Prop where
  ne : names ≠ []
  le : names.length ≤ l.length
  mem : ∀ name ∈ l.take names.length, name ∈ names

namespace Entity

/-- Names that normalization may add an index over: the local fields of a relation, or one field of
    the primary key. -/
def Indexable (e : Entity) (names : List String) : Prop :=
  (∃ r ∈ e.relations, names = r.localFields) ∨ ∃ name ∈ e.primaryKeyNames, names = [name]

/-- What normalization guarantees for an entity of a database. Native ids have an auto-incremented
    key field. With heavy indexing, key fields after the first lead some index. On MySQL local
    fields lead some index, unless their relation is left out of statements. -/
structure Guaranteed (p : Platform) (db : Database) (e : Entity) : Prop where
  ids : e.idMethodIn db = .native →
    ∃ f ∈ e.fields, f.primaryKey = true ∧ f.autoIncrement = true
  heavy : e.heavyIndexingIn db = true → ∀ name ∈ e.primaryKeyNames.drop 1,
    e.isIndexedByPrefix [name] = true ∧ (e.primaryKeyNames.head? = some name ∨
      ∃ index ∈ e.indices, index.fieldNames.head? = some name)
  relations : ∀ engine, p.dialect = .mysql engine → ∀ r ∈ e.relations, r.skipSql = false →
    e.isIndexedByPrefix r.localFields = true

/-- An entity has the fields of an earlier one and the pairs of its relations. The earlier indices
    are in their places with the same fields, sizes and uniqueness, and those behind them are over
    names that may be indexed. -/
structure Completes (e e' : Entity) : Prop where
  fields : e'.fields = e.fields
  references : e'.relations.map (·.references) = e.relations.map (·.references)
  indices : ∃ kept added, e'.indices = kept ++ added ∧
    List.Forall₂ (fun index index' : Index =>
      index'.fields = index.fields ∧ index'.unique = index.unique) e.indices kept ∧
    ∀ index ∈ added, e.Indexable index.fieldNames

/-- An entity has the indices of another one, and behind them new ones over names that may be
    indexed. -/
def Appends (e e' : Entity) : Prop :=
  ∃ added, e'.indices = e.indices ++ added ∧ ∀ index ∈ added, e.Indexable index.fieldNames

variable {e e' e'' : Entity} {names : List String}

-- ── Leading fields ────────────────────────────────────────────────────────────

/-- The tests of keys and indices ask for the names at the front. -/
theorem isIndexedByPrefix_iff : e.isIndexedByPrefix names = true ↔
    StartsWith e.primaryKeyNames names ∨
      ∃ index ∈ e.indices, StartsWith index.fieldNames names := by
  have htest : ∀ l : List String, (!names.isEmpty && decide (names.length ≤ l.length) &&
      (l.take names.length).all names.contains) = true ↔ StartsWith l names := by
    intro l
    rw [Bool.and_eq_true, Bool.and_eq_true, Bool.not_eq_true', decide_eq_true_eq,
      List.isEmpty_eq_false_iff, List.all_eq_true]
    constructor
    · rintro ⟨⟨hne, hle⟩, hmem⟩
      exact ⟨hne, hle, fun name hname => List.contains_iff_mem.mp (hmem name hname)⟩
    · rintro ⟨hne, hle, hmem⟩
      exact ⟨⟨hne, hle⟩, fun name hname => List.contains_iff_mem.mpr (hmem name hname)⟩
  have hindex : ∀ index : Index,
      index.hasPrefix names = true ↔ StartsWith index.fieldNames names := by
    intro index
    rw [← htest, Index.hasPrefix, Index.fieldNames, List.length_map]
  rw [isIndexedByPrefix, Bool.or_eq_true, keyHasPrefix, htest, List.any_eq_true]
  simp only [hindex]

/-- A single name leads a list if the list starts with it. -/
theorem startsWith_singleton {l : List String} {name : String} :
    StartsWith l [name] ↔ l.head? = some name := by
  constructor
  · rintro ⟨-, hle, hmem⟩
    cases l with
    | nil => exact absurd hle (Nat.not_succ_le_zero 0)
    | cons first rest =>
        have hfirst : first = name := List.mem_singleton.mp (hmem first (by simp))
        rw [hfirst]
        rfl
  · intro h
    cases l with
    | nil => exact nomatch h
    | cons first rest =>
        injection h with h
        subst h
        exact ⟨List.cons_ne_nil _ _, by simp, by simp⟩

-- ── New indices ───────────────────────────────────────────────────────────────

/-- Growth does not change what may be indexed. -/
theorem Grows.indexable (h : e.Grows e') (hnames : e'.Indexable names) : e.Indexable names := by
  rw [Indexable, h.relations, primaryKeyNames_congr h.fields] at hnames
  exact hnames

theorem appends_of_indices_eq (h : e'.indices = e.indices) : e.Appends e' :=
  ⟨[], by rw [h, List.append_nil], fun _ hindex => nomatch hindex⟩

/-- Indices that are appended one after another are all over names that could be indexed at the
    start, since growing does not change which these are. -/
theorem Appends.trans (h : e.Appends e') (hgrows : e.Grows e') (h' : e'.Appends e'') :
    e.Appends e'' := by
  obtain ⟨added, hadded, hall⟩ := h
  obtain ⟨added', hadded', hall'⟩ := h'
  refine ⟨added ++ added', by rw [hadded', hadded, List.append_assoc], fun index hindex => ?_⟩
  rcases List.mem_append.mp hindex with hold | hnew
  · exact hall index hold
  · exact hgrows.indexable (hall' index hnew)

/-- Planned indices are over names that were wanted. -/
theorem appends_withIndices (e : Entity) (unique : Bool) (satisfied : List String → Bool)
    {wanted : List (List String)} (h : ∀ names ∈ wanted, e.Indexable names) :
    e.Appends (e.withIndices unique (planIndices satisfied wanted)) := by
  refine ⟨_, rfl, fun index hindex => ?_⟩
  obtain ⟨names, hnames, rfl⟩ := List.mem_map.mp hindex
  have hfields : (Index.ofNames unique names).fieldNames = names := by
    simp [Index.ofNames, Index.fieldNames, Function.comp_def]
  rw [hfields]
  exact h names (mem_planIndices hnames).1

theorem appends_withIdMethod (e : Entity) (db : Database) : e.Appends (e.withIdMethod db) := by
  rw [withIdMethod]
  split
  · exact appends_of_indices_eq rfl
  · exact appends_of_indices_eq rfl

theorem appends_withInverseIndices (e : Entity) (db : Database) :
    e.Appends (e.withInverseIndices db) := by
  refine e.appends_withIndices true _ fun names hnames => ?_
  obtain ⟨r, hr, rfl⟩ := List.mem_map.mp hnames
  exact .inl ⟨r, (List.mem_filter.mp hr).1, rfl⟩

/-- Indices for heavy indexing are over key fields one by one. -/
theorem appends_withHeavyIndices (e : Entity) (db : Database) :
    e.Appends (e.withHeavyIndices db) := by
  rw [withHeavyIndices]
  split
  · refine e.appends_withIndices false _ fun names hnames => ?_
    obtain ⟨name, hname, rfl⟩ := List.mem_map.mp hnames
    exact .inr ⟨name, List.mem_of_mem_drop hname, rfl⟩
  · exact appends_of_indices_eq rfl

theorem appends_withRelationIndices (e : Entity) : e.Appends e.withRelationIndices := by
  refine e.appends_withIndices false _ fun names hnames => ?_
  obtain ⟨r, hr, rfl⟩ := List.mem_map.mp hnames
  exact .inl ⟨r, (List.mem_filter.mp hr).1, rfl⟩

/-- Whatever a platform makes of an entity, new indices are over names that may be indexed. -/
theorem appends_normalizedIn (e : Entity) (p : Platform) (db : Database) :
    e.Appends (e.normalizedIn p db) := by
  have hids := e.withIdMethod_grows db
  have hinverses := (e.appends_withIdMethod db).trans hids (appends_withInverseIndices _ db)
  have hgrows : e.Grows ((e.withIdMethod db).withInverseIndices db) :=
    hids.trans (withIndices_grows _ true _)
  have hshared : e.Appends (e.sharedIn db) :=
    hinverses.trans hgrows (appends_withHeavyIndices _ db)
  rw [normalizedIn]
  split
  · exact hshared.trans (e.sharedIn_grows db) (appends_withRelationIndices _)
  · exact hshared

-- ── Binding and naming ────────────────────────────────────────────────────────

/-- Naming keeps what an entity has been completed to. -/
theorem completes_namedIn (hgrows : e.Grows e') (happends : e.Appends e') (db : Database) :
    e.Completes (e'.namedIn db) := by
  obtain ⟨added, hindices, hadded⟩ := happends
  refine ⟨hgrows.fields, ?_, e.indices.map (Database.namedIndex e'.table),
    added.map (Database.namedIndex e'.table), ?_, ?_, ?_⟩
  · show (e'.relations.map (·.namedIn db)).map (·.references) = _
    rw [hgrows.relations, List.map_map]
    rfl
  · show e'.indices.map (Database.namedIndex e'.table) = _
    rw [hindices, List.map_append]
  · exact List.forall₂_map_right_iff.mpr (List.forall₂_same.mpr fun _ _ => ⟨rfl, rfl⟩)
  · intro index hindex
    obtain ⟨index', hindex', rfl⟩ := List.mem_map.mp hindex
    exact hadded index' hindex'

/-- What completes an entity with bound relations completes the entity. -/
theorem Completes.of_bound {db : Database}
    (h : (e.mapRelations (·.boundIn db)).Completes e') : e.Completes e' := by
  obtain ⟨hfields, hreferences, kept, added, hindices, hkept, hadded⟩ := h
  refine ⟨hfields, ?_, kept, added, hindices, hkept, fun index hindex => ?_⟩
  · rw [hreferences, mapRelations, List.map_map]
    rfl
  · rcases hadded index hindex with ⟨r', hr', hnames⟩ | hkey
    · obtain ⟨r, hr, rfl⟩ := List.mem_map.mp hr'
      exact .inl ⟨r, hr, hnames⟩
    · exact .inr hkey

/-- A settled entity whose relations have pairs has all that is guaranteed. -/
theorem Settled.guaranteed {p : Platform} {db : Database} (h : e.Settled p db)
    (hpairs : ∀ r ∈ e.relations, r.references ≠ []) : e.Guaranteed p db where
  ids := fun hnative => autoIncrementKey?_isSome.mp (h.ids hnative)
  heavy := by
    intro hheavy name hname
    have hwanted : [name] ∈ Database.heavyNames e := List.mem_map.mpr ⟨name, hname, rfl⟩
    have hindexed : e.isIndexedByPrefix [name] = true :=
      (h.heavy hheavy [name] hwanted).resolve_left (List.cons_ne_nil name [])
    refine ⟨hindexed, ?_⟩
    simpa only [isIndexedByPrefix_iff, startsWith_singleton] using hindexed
  relations := by
    intro engine hp r hr hskip
    have hwanted : r.localFields ∈ Database.relationNames e :=
      List.mem_map.mpr ⟨r, List.mem_filter.mpr ⟨hr, by rw [hskip]; rfl⟩, rfl⟩
    refine (h.relations engine hp _ hwanted).resolve_left fun hnil => hpairs r hr ?_
    exact List.map_eq_nil_iff.mp hnil

end Entity

namespace Database

variable {db d : Database} {p : Platform}

/-- When a reachable database is finalized, all entities have what normalization guarantees, and
    each of them completes the entity that was there before. -/
theorem finalize_guarantees (h : db.Reachable) (hok : db.finalize p = (d, .ok ())) :
    (∀ e ∈ d.entities, e.Guaranteed p d) ∧
      List.Forall₂ Entity.Completes db.entities d.entities := by
  have hp : db.Placed := h.sound.placed
  have hresolved : d.Resolved := by
    rcases finalize_resolved hp p with ⟨f, herror⟩ | hresolved
    · rw [hok] at herror
      exact nomatch congrArg Prod.snd herror
    · rw [hok] at hresolved
      exact hresolved
  constructor
  · intro e he
    have hpairs : ∀ r ∈ e.relations, r.references ≠ [] := fun r hr =>
      (hresolved r (mem_relations.mpr ⟨e, he, hr⟩)).1
    exact (finalize_settles hp hok e he).guaranteed hpairs
  -- the entities of the final form are bound, normalized and named, and binding goes first
  · rw [finalize_eq_finalForm hp hok, entities_finalForm, List.forall₂_map_right_iff]
    exact List.forall₂_same.mpr fun e _ => .of_bound
      (Entity.completes_namedIn (Entity.normalizedIn_grows _ p _)
        (Entity.appends_normalizedIn _ p _) _)

/-- MySQL finalizes the community, which has composite keys, heavy indexing and native ids, and what
    is guaranteed holds of it. Indices have been added. -/
theorem finalize_guarantees_community :
    ∃ d, community.Reachable ∧ community.finalize ⟨.mysql "InnoDB", false⟩ = (d, .ok ()) ∧
      (community.entities.map (·.indices.length)) ≠ d.entities.map (·.indices.length) ∧
      (∀ e ∈ d.entities, e.Guaranteed ⟨.mysql "InnoDB", false⟩ d) ∧
      List.Forall₂ Entity.Completes community.entities d.entities := by
  have hok : community.finalize ⟨.mysql "InnoDB", false⟩ =
      ((community.finalize ⟨.mysql "InnoDB", false⟩).1, .ok ()) := Prod.ext rfl (by decide +kernel)
  obtain ⟨hguaranteed, hcompletes⟩ := finalize_guarantees community_reachable hok
  exact ⟨_, community_reachable, hok, by decide +kernel, hguaranteed, hcompletes⟩

end Database

end SchemaDdl
