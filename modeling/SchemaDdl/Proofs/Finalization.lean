import SchemaDdl.Proofs.Normalization
import SchemaDdl.Proofs.Resolution

/-!
# The passes of finalizing

Binding and naming are written as one change after the other, each found by an id. On a placed
database each of the two passes is one change made to all relations at once, and this is the form in
which the rest of the theory uses them.

* **`Database.bindRelations_eq_ok`**: binding goes through only if every relation is verified, and
  then sets every target.
* **`Database.fixNames_eq`**: naming gives every relation and every index the name it has anyway.
* **`Database.finalize_cases`**: what finalizing a database can come to.
* **`Database.Resolved`**: every relation has pairs and is bound to an entity of the database. A
  finalization that is not refused by a relation leaves this behind (`Database.finalize_resolved`).
-/

namespace SchemaDdl

/-- A relation bound to its target. -/
def Relation.boundIn (r : Relation) (db : Database) : Relation :=
  { r with bound := (r.targetEntity? db).bind (·.id) }

/-- A relation with its name fixed. -/
def Relation.namedIn (r : Relation) (db : Database) : Relation := r.fixName (r.nameIn db)

/-- An entity with the names of its relations and indices fixed. -/
def Entity.namedIn (e : Entity) (db : Database) : Entity :=
  Database.withNamedIndices (e.mapRelations (·.namedIn db))

namespace Database

/-- A database with every relation bound to its target. -/
def allBound (db : Database) : Database := db.mapRelations (·.boundIn db)

/-- A database with all names fixed. -/
def allNamed (db : Database) : Database :=
  { db with entities := db.entities.map (·.namedIn db) }

/-- Every relation has pairs, and is bound to an entity of the database. -/
def Resolved (db : Database) : Prop :=
  ∀ r ∈ db.relations, r.references ≠ [] ∧ ∃ t, db.entity? r.bound = some t

/-- Every relation and every index has a stored name. -/
def Named (db : Database) : Prop :=
  ∀ e ∈ db.entities, (∀ r ∈ e.relations, r.storedName?.isSome = true) ∧
    ∀ index ∈ e.indices, index.name.isSome = true

end Database

namespace Relation

variable {r : Relation} {db : Database}

/-- The target of a bound relation is the entity that it is bound to. -/
theorem targetEntity?_of_bound {t : Entity} (ht : db.entity? r.bound = some t) :
    r.targetEntity? db = some t := by
  rw [targetEntity?]
  cases hb : r.bound with
  | none =>
      rw [hb] at ht
      cases ht
  | some position =>
      rw [hb] at ht
      exact ht

/-- Binding a bound relation again changes nothing. -/
theorem boundIn_eq_self (hp : db.Placed) {t : Entity} (ht : db.entity? r.bound = some t) :
    r.boundIn db = r := by
  have hsame : (r.targetEntity? db).bind (·.id) = r.bound := by
    rw [targetEntity?_of_bound ht]
    exact hp.id_of_entity? ht
  rw [boundIn, hsame]

/-- A relation with a stored name keeps it. -/
theorem namedIn_eq_self (h : r.storedName?.isSome = true) : r.namedIn db = r := by
  have hname : r.name.fix (r.nameIn db) = r.name := by
    rw [nameIn, storedName?]
    rw [storedName?] at h
    cases hn : r.name with
    | explicit name => rfl
    | auto fixed =>
        rw [hn] at h
        cases fixed with
        | none => exact nomatch h
        | some name => rfl
  show { r with name := r.name.fix (r.nameIn db) } = r
  rw [hname]

/-- The name that is fixed is the name that could be read before. -/
theorem storedName?_namedIn (r : Relation) (db : Database) :
    (r.namedIn db).storedName? = some (r.nameIn db) := by
  show (r.name.fix (r.nameIn db)).stored? = some (r.nameIn db)
  cases hn : r.name with
  | explicit name =>
      rw [nameIn, storedName?, hn]
      rfl
  | auto fixed => rfl

/-- Fixing a derived name is not seen in the outline of a relation. -/
theorem outline_namedIn (r : Relation) (db : Database) : (r.namedIn db).outline = r.outline := by
  show { r with name := (r.name.fix (r.nameIn db)).reset } = r.outline
  cases hn : r.name with
  | explicit name =>
      rw [outline, hn]
      rfl
  | auto fixed =>
      rw [outline, hn]
      rfl

end Relation

namespace Entity

variable (e : Entity) (db : Database)

/-- Nor is it seen in the outline of an entity, which has no indices either. -/
theorem outline_namedIn : (e.namedIn db).outline = e.outline := by
  have hrelations : Relation.outline ∘ (·.namedIn db) = Relation.outline := by
    funext r
    exact r.outline_namedIn db
  show { e with
    idMethod := none
    relations := (e.relations.map (·.namedIn db)).map Relation.outline
    indices := [] } = e.outline
  rw [List.map_map, hrelations]
  rfl

/-- Names of indices do not count for uniqueness. -/
theorem hasUniqueOver_namedIn (names : List String) :
    (e.namedIn db).hasUniqueOver names = e.hasUniqueOver names := by
  have hindices : (e.namedIn db).uniqueIndices.any (·.covers names) =
      e.uniqueIndices.any (·.covers names) := by
    show ((e.indices.map (Database.namedIndex e.table)).filter (·.unique)).any _ = _
    rw [List.filter_map, List.any_map]
    rfl
  simp only [hasUniqueOver, hindices]
  rfl

/-- Names of indices do not count for leading fields. -/
theorem isIndexedByPrefix_namedIn (names : List String) :
    (e.namedIn db).isIndexedByPrefix names = e.isIndexedByPrefix names := by
  have hindices : (e.namedIn db).indices.any (·.hasPrefix names) =
      e.indices.any (·.hasPrefix names) := by
    show (e.indices.map (Database.namedIndex e.table)).any _ = _
    rw [List.any_map]
    rfl
  simp only [isIndexedByPrefix, hindices]
  rfl

end Entity

namespace Database

variable {db db' : Database} {p : Platform}

-- ── Binding ───────────────────────────────────────────────────────────────────

/-- Bindings are found only if all relations are verified, and then for all of them in order. -/
theorem bindingsOf_eq_ok {rs : List Relation} {bs : List Binding}
    (h : db.bindingsOf rs = .ok bs) :
    (∀ r ∈ rs, ∃ id, r.verify db = .ok id) ∧
      bs = rs.map fun r => ⟨r.id, (r.boundIn db).bound⟩ := by
  induction rs generalizing bs with
  | nil =>
      injection h with h
      exact ⟨fun _ hr => (nomatch hr), h.symm⟩
  | cons r rs ih =>
      rw [bindingsOf] at h
      cases hv : r.verify db with
      | error e =>
          rw [hv] at h
          exact nomatch h
      | ok id =>
          rw [hv] at h
          cases hrest : db.bindingsOf rs with
          | error e =>
              rw [hrest] at h
              exact nomatch h
          | ok rest =>
              rw [hrest] at h
              injection h with h
              obtain ⟨hall, hbs⟩ := ih hrest
              obtain ⟨-, ⟨t, ht, hid⟩, -⟩ := Relation.verify_eq_ok hv
              have hbound : (r.boundIn db).bound = id := by
                rw [Relation.boundIn, ht, hid]
                rfl
              refine ⟨fun r' hr' => ?_, ?_⟩
              · rcases List.mem_cons.mp hr' with rfl | hr'
                · exact ⟨id, hv⟩
                · exact hall r' hr'
              · rw [← h, hbs, List.map_cons, hbound]

/-- Binding goes through only if all relations are verified, and then binds each to its target. -/
theorem bindRelations_eq_ok (hp : db.Placed) (h : db.bindRelations = .ok db') :
    (∀ r ∈ db.relations, ∃ id, r.verify db = .ok id) ∧ db' = db.allBound := by
  rw [bindRelations] at h
  cases hb : db.bindingsOf db.relations with
  | error e =>
      rw [hb] at h
      exact nomatch h
  | ok bs =>
      rw [hb] at h
      injection h with h
      obtain ⟨hverified, hbs⟩ := bindingsOf_eq_ok hb
      refine ⟨hverified, ?_⟩
      rw [← h]
      refine hp.foldl_modifyRelation Binding.relation (fun b r => { r with bound := b.target })
        (fun _ _ => rfl) ?_ ?_
      · intro r hr
        rw [hbs]
        exact Or.inl ⟨_, List.mem_map.mpr ⟨r, hr, rfl⟩, rfl⟩
      · intro r hr b hb hid
        rw [hbs] at hb
        obtain ⟨r', hr', rfl⟩ := List.mem_map.mp hb
        rw [hp.relation_ext hr' hr hid]
        exact ⟨rfl, rfl⟩

-- ── Naming ────────────────────────────────────────────────────────────────────

/-- Naming gives every relation and every index of every entity the name it has anyway. -/
theorem fixNames_eq (hp : db.Placed) : db.fixNames = db.allNamed := by
  have hrelations : db.relationNamesToFix.foldl
      (fun acc n => acc.modifyRelation n.1 (·.fixName n.2)) db =
      db.mapRelations (·.namedIn db) := by
    refine hp.foldl_modifyRelation Prod.fst (fun n r => r.fixName n.2) (fun _ _ => rfl) ?_ ?_
    · intro r hr
      cases hs : r.storedName? with
      | some name => exact Or.inr (Relation.namedIn_eq_self (by rw [hs]; rfl))
      | none =>
          refine Or.inl ⟨(r.id, r.autoName db), ?_, rfl⟩
          exact List.mem_map.mpr ⟨r, List.mem_filter.mpr ⟨hr, by rw [hs]; rfl⟩, rfl⟩
    · intro r hr n hn hid
      obtain ⟨r', hr', rfl⟩ := List.mem_map.mp hn
      obtain ⟨hr', hnone⟩ := List.mem_filter.mp hr'
      rw [hp.relation_ext hr' hr hid] at hnone ⊢
      have hs : r.storedName? = none := Option.isNone_iff_eq_none.mp hnone
      have hname : r.nameIn db = r.autoName db := by
        rw [Relation.nameIn, hs]
        rfl
      refine ⟨by rw [Relation.namedIn, hname], ?_⟩
      rw [Relation.namedIn, hname]
      show { r with name := (r.name.fix (r.autoName db)).fix (r.autoName db) } = _
      cases hn : r.name with
      | explicit name => rw [Relation.storedName?, hn] at hs; exact nomatch hs
      | auto fixed => rw [Relation.fixName, hn]; rfl
  rw [fixNames, hrelations]
  show { db with entities := (db.entities.map _).map withNamedIndices } = _
  rw [List.map_map]
  rfl

/-- Names can be fixed before or after an entity is looked up. -/
theorem entity?_allNamed (db : Database) (id : EntityId) :
    db.allNamed.entity? id = (db.entity? id).map (·.namedIn db) := by
  cases id with
  | none => rfl
  | some i => exact List.getElem?_map

theorem relations_allNamed (db : Database) :
    db.allNamed.relations = db.relations.map (·.namedIn db) := by
  rw [← relations_mapRelations]
  simp only [relations, allNamed, mapRelations, List.flatMap_map]
  rfl

/-- An index with a name keeps it. -/
theorem namedIndex_eq_self (table : String) {index : Index} (h : index.name.isSome = true) :
    namedIndex table index = index := by
  obtain ⟨name, hname⟩ := Option.isSome_iff_exists.mp h
  show { index with name := some (index.name.getD _) } = index
  rw [hname, Option.getD_some, ← hname]

/-- Once all names are fixed there is nothing to fix. -/
theorem allNamed_eq_self (h : db.Named) : db.allNamed = db := by
  have hentity : ∀ e ∈ db.entities, e.namedIn db = e := by
    intro e he
    obtain ⟨hrelations, hindices⟩ := h e he
    have hrs : e.relations.map (·.namedIn db) = e.relations :=
      (List.map_congr_left fun r hr => Relation.namedIn_eq_self (hrelations r hr)).trans
        (List.map_id _)
    have his : e.indices.map (namedIndex e.table) = e.indices :=
      (List.map_congr_left fun index hindex => namedIndex_eq_self _ (hindices index hindex)).trans
        (List.map_id _)
    show { e with
      relations := e.relations.map (·.namedIn db)
      indices := e.indices.map (namedIndex e.table) } = e
    rw [hrs, his]
  show { db with entities := _ } = db
  rw [(List.map_congr_left hentity).trans (List.map_id _)]

/-- Afterwards every relation and every index has a stored name. -/
theorem named_allNamed (db : Database) : db.allNamed.Named := by
  intro e he
  obtain ⟨e', he', rfl⟩ := List.mem_map.mp he
  constructor
  · intro r hr
    obtain ⟨r', hr', rfl⟩ := List.mem_map.mp hr
    rw [Relation.storedName?_namedIn]
    rfl
  · intro index hindex
    obtain ⟨index', hindex', rfl⟩ := List.mem_map.mp hindex
    rfl

/-- Fixing names keeps everything in its place. -/
theorem Placed.allNamed (h : db.Placed) : db.allNamed.Placed where
  entity_id := by
    intro i e he
    have hmap := db.entity?_allNamed (some i)
    rw [entity?_some, he] at hmap
    obtain ⟨e', he', rfl⟩ := Option.map_eq_some_iff.mp hmap.symm
    show e'.id = some i
    exact h.entity_id he'
  numbered := by
    intro e he j r hr
    obtain ⟨e', he', rfl⟩ := List.mem_map.mp he
    have hmap : (e'.relations[j]?).map (·.namedIn db) = some r := by
      rw [← List.getElem?_map]
      exact hr
    obtain ⟨r', hr', rfl⟩ := Option.map_eq_some_iff.mp hmap
    show r'.id = ⟨e'.id, some j⟩
    exact h.numbered he' hr'

/-- Fixing all names is not seen in the outline of a database. -/
theorem outline_allNamed (db : Database) : db.allNamed.outline = db.outline := by
  show { db with entities := (db.entities.map _).map Entity.outline, finalized := false } = _
  rw [List.map_map]
  have hentities : Entity.outline ∘ (·.namedIn db) = Entity.outline := by
    funext e
    exact e.outline_namedIn db
  rw [hentities]
  rfl

-- ── Finalizing ────────────────────────────────────────────────────────────────

/-- What finalizing comes to: a relation is not verified and nothing happens, or all relations are
    bound and the platform refuses something, or names are fixed at the end. -/
theorem finalize_cases (hp : db.Placed) (p : Platform) :
    (∃ f, db.finalize p = (db, .error f)) ∨
    (∀ r ∈ db.relations, ∃ id, r.verify db = .ok id) ∧ ∃ mid, db.allBound.Grows mid ∧
      ((∃ f, p.normalize db.allBound = (mid, .error f) ∧ db.finalize p = (mid, .error f)) ∨
        p.normalize db.allBound = (mid, .ok ()) ∧
          db.finalize p = ({ mid.allNamed with finalized := true }, .ok ())) := by
  rw [finalize]
  cases hb : db.bindRelations with
  | error e => exact Or.inl ⟨_, rfl⟩
  | ok bound =>
      refine Or.inr ?_
      obtain ⟨hverified, hbound⟩ := bindRelations_eq_ok hp hb
      have hplaced : db.allBound.Placed := hp.mapRelations fun _ => rfl
      have hgrows := p.normalize_grows db.allBound
      subst hbound
      cases hn : p.normalize db.allBound with
      | mk mid reply =>
          rw [hn] at hgrows
          refine ⟨hverified, mid, hgrows, ?_⟩
          cases reply with
          | error f =>
              refine Or.inl ⟨f, rfl, ?_⟩
              show (p.normalize db.allBound).andThen _ = _
              rw [hn]
              rfl
          | ok _ =>
              refine Or.inr ⟨rfl, ?_⟩
              show (p.normalize db.allBound).andThen _ = _
              rw [hn, ← fixNames_eq (hgrows.placed hplaced)]
              rfl

/-- A finalization that goes through: all relations were verified, and the database is what
    normalization made of the bound one, with all names fixed. -/
theorem finalize_eq_ok (hp : db.Placed) (h : db.finalize p = (db', .ok ())) :
    (∀ r ∈ db.relations, ∃ id, r.verify db = .ok id) ∧ ∃ mid, db.allBound.Grows mid ∧
      p.normalize db.allBound = (mid, .ok ()) ∧
      db' = { mid.allNamed with finalized := true } := by
  rcases finalize_cases hp p with ⟨f, heq⟩ | ⟨hverified, mid, hgrows, hcase⟩
  · rw [heq] at h
    exact nomatch congrArg Prod.snd h
  · refine ⟨hverified, mid, hgrows, ?_⟩
    rcases hcase with ⟨f, -, heq⟩ | ⟨hn, heq⟩
    · rw [heq] at h
      exact nomatch congrArg Prod.snd h
    · rw [heq] at h
      injection h with h
      exact ⟨hn, h.symm⟩

/-- After a finalization that goes through, the platform has nothing more to do with any entity. -/
theorem finalize_settles (hp : db.Placed) (h : db.finalize p = (db', .ok ())) :
    ∀ e ∈ db'.entities, e.Settled p db' := by
  obtain ⟨-, mid, hgrows, hn, rfl⟩ := finalize_eq_ok hp h
  intro e he
  obtain ⟨e', he', rfl⟩ := List.mem_map.mp he
  have hkept : Entity.Kept mid e' { mid.allNamed with finalized := true } (e'.namedIn mid) :=
    { database := outline_allNamed mid
      outline := e'.outline_namedIn mid
      idMethod := Or.inl rfl
      unique := fun names hu => (e'.hasUniqueOver_namedIn mid names).trans hu
      indexed := fun names hi => (e'.isIndexedByPrefix_namedIn mid names).trans hi }
  exact hkept.settled (Platform.normalize_settles hn e' he')

-- ── Resolved databases ────────────────────────────────────────────────────────

/-- Binding a database of verified relations resolves it. -/
theorem resolved_allBound (hp : db.Placed)
    (hverified : ∀ r ∈ db.relations, ∃ id, r.verify db = .ok id) : db.allBound.Resolved := by
  intro r hr
  rw [allBound, relations_mapRelations] at hr
  obtain ⟨r', hr', rfl⟩ := List.mem_map.mp hr
  obtain ⟨id, hv⟩ := hverified r' hr'
  obtain ⟨hne, ⟨t, ht, -⟩, -⟩ := Relation.verify_eq_ok hv
  have hbound : (r'.boundIn db).bound = t.id := by
    rw [Relation.boundIn, ht]
    rfl
  refine ⟨hne, t.mapRelations (·.boundIn db), ?_⟩
  rw [hbound, allBound, entity?_mapRelations, hp.entity?_id (Relation.mem_of_targetEntity? ht)]
  rfl

/-- Growth leaves relations and entities where they are, so they stay resolved. -/
theorem Resolved.of_grows (h : db.Resolved) (hg : db.Grows db') : db'.Resolved := by
  intro r hr
  rw [hg.relations] at hr
  obtain ⟨hne, t, ht⟩ := h r hr
  obtain ⟨t', ht', -⟩ := hg.entity? ht
  exact ⟨hne, t', ht'⟩

/-- Fixing names leaves pairs and bindings alone. -/
theorem Resolved.allNamed (h : db.Resolved) : db.allNamed.Resolved := by
  intro r hr
  rw [relations_allNamed] at hr
  obtain ⟨r', hr', rfl⟩ := List.mem_map.mp hr
  obtain ⟨hne, t, ht⟩ := h r' hr'
  refine ⟨hne, t.namedIn db, ?_⟩
  show db.allNamed.entity? r'.bound = _
  rw [entity?_allNamed, ht]
  rfl

/-- The relations of a resolved database have the targets that they are bound to. -/
theorem Resolved.targetEntity? (h : db.Resolved) {r : Relation} (hr : r ∈ db.relations) :
    ∃ t, r.targetEntity? db = some t ∧ db.entity? r.bound = some t := by
  obtain ⟨-, t, ht⟩ := h r hr
  exact ⟨t, Relation.targetEntity?_of_bound ht, ht⟩

/-- Binding a resolved database again changes nothing. -/
theorem Resolved.allBound_eq_self (h : db.Resolved) (hp : db.Placed) : db.allBound = db := by
  refine mapRelations_eq_self fun r hr => ?_
  obtain ⟨-, t, ht⟩ := h r hr
  exact Relation.boundIn_eq_self hp ht

/-- A finalization that is not stopped by a relation resolves the database. -/
theorem finalize_resolved (hp : db.Placed) (p : Platform) :
    (∃ f, db.finalize p = (db, .error f)) ∨ (db.finalize p).1.Resolved := by
  rcases finalize_cases hp p with hstop | ⟨hverified, mid, hgrows, hcase⟩
  · exact Or.inl hstop
  · refine Or.inr ?_
    have hmid : mid.Resolved := (resolved_allBound hp hverified).of_grows hgrows
    rcases hcase with ⟨f, -, heq⟩ | ⟨-, heq⟩
    · rw [heq]
      exact hmid
    · rw [heq]
      exact hmid.allNamed

end Database

end SchemaDdl
