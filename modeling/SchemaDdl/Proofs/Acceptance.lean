import SchemaDdl.Proofs.Normalized
import SchemaDdl.Proofs.Paths
import SchemaDdl.Proofs.Reachability
import SchemaDdl.Proofs.Verification

/-!
# Which databases are finalized

Finalizing can fail in two ways only. A relation is not resolvable; or SQLite refuses an entity.
Nothing behind verification fails by itself, because every index that is planned is over fields that
were verified.

* **`Database.finalForm`**: what finalizing makes of a database, as one expression.
* **`Database.finalize_of_resolvable`**: it is the outcome wherever relations are resolvable and no
  entity is refused.
* **`Database.bindRelations_cases`**: binding reports the first relation that is not resolvable.
-/

namespace SchemaDdl

namespace Entity

variable {e : Entity} {f : Field}

/-- There is an auto-incremented key field if some field is both. -/
theorem autoIncrementKey?_isSome :
    e.autoIncrementKey?.isSome = true ↔
      ∃ f ∈ e.fields, f.primaryKey = true ∧ f.autoIncrement = true := by
  rw [autoIncrementKey?, List.find?_isSome]
  simp only [primaryKey, List.mem_filter, and_assoc]

/-- A field that is the whole primary key is a field of the entity and of the key. -/
theorem of_primaryKey_eq_singleton (h : e.primaryKey = [f]) :
    f ∈ e.fields ∧ f.primaryKey = true := by
  rw [← List.mem_filter]
  show f ∈ e.primaryKey
  rw [h]
  exact List.mem_singleton_self f

/-- SQLite refuses an entity unless every auto-incremented field is the whole primary key. -/
theorem sqliteRefusal?_eq_none :
    e.sqliteRefusal? = none ↔ ∀ f ∈ e.fields, f.autoIncrement = true → e.primaryKey = [f] := by
  rw [sqliteRefusal?]
  constructor
  · intro h f hf hauto
    split at h
    · exact nomatch h
    · rename_i hcomposite
      have hkey : f.primaryKey = true := by
        have hpassed := List.find?_eq_none.mp (Option.map_eq_none_iff.mp h) f hf
        simpa [hauto] using hpassed
      -- an auto-incremented key field is found, so the key must not be composite
      have hmem : f ∈ e.primaryKey := List.mem_filter.mpr ⟨hf, hkey⟩
      have hfound : e.autoIncrementKey?.isSome = true :=
        autoIncrementKey?_isSome.mpr ⟨f, hf, hkey, hauto⟩
      have hlength : e.primaryKey.length = 1 := by
        have hpos := List.length_pos_of_mem hmem
        have hsingle : ¬ 1 < e.primaryKey.length := by
          simpa [hasCompositeKey, hfound] using hcomposite
        omega
      obtain ⟨g, hg⟩ := List.length_eq_one_iff.mp hlength
      rw [hg] at hmem ⊢
      rw [List.mem_singleton.mp hmem]
  · intro h
    rw [if_neg, Option.map_eq_none_iff, List.find?_eq_none]
    · intro f hf hboth
      obtain ⟨hauto, hkey⟩ := Bool.and_eq_true_iff.mp hboth
      rw [(of_primaryKey_eq_singleton (h f hf hauto)).2] at hkey
      exact nomatch hkey
    · intro hboth
      obtain ⟨hcomposite, hsome⟩ := Bool.and_eq_true_iff.mp hboth
      obtain ⟨f, hf, -, hauto⟩ := autoIncrementKey?_isSome.mp hsome
      rw [hasCompositeKey, h f hf hauto] at hcomposite
      exact nomatch hcomposite

end Entity

namespace Database

variable {db d : Database} {p : Platform}

/-- All relations with their owners, in order of declaration. -/
def declared (db : Database) : List (Entity × Relation) :=
  db.entities.flatMap fun e => e.relations.map (e, ·)

/-- Every relation is resolvable for the entity that declares it. -/
def Resolvable (db : Database) : Prop :=
  ∀ e ∈ db.entities, ∀ r ∈ e.relations, r.Resolvable db e

/-- What finalizing makes of a database: all relations bound, all entities as the platform makes
    them, all names fixed. -/
def finalForm (db : Database) (p : Platform) : Database :=
  { (db.allBound.allNormalized p).allNamed with finalized := true }

/-- What finalizing makes of each entity: bound, normalized, and then named. -/
theorem entities_finalForm (db : Database) (p : Platform) :
    (db.finalForm p).entities = db.entities.map fun e =>
      ((e.mapRelations (·.boundIn db)).normalizedIn p db.allBound).namedIn
        (db.allBound.allNormalized p) := by
  simp only [finalForm, allNamed, allNormalized, allBound, mapRelations, List.map_map]
  rfl

theorem mem_declared {e : Entity} {r : Relation} :
    (e, r) ∈ db.declared ↔ e ∈ db.entities ∧ r ∈ e.relations := by
  simp [declared]

theorem map_snd_declared (db : Database) : db.declared.map Prod.snd = db.relations := by
  simp [declared, relations, List.map_flatMap, Function.comp_def]

-- ── Binding ───────────────────────────────────────────────────────────────────

/-- There are bindings for all of some relations, or the first unresolvable one is reported. -/
theorem bindingsOf_cases {declared : List (Entity × Relation)}
    (howners : ∀ d ∈ declared, d.2.owner? db = some d.1) :
    ((∀ d ∈ declared, d.2.Resolvable db d.1) ∧
      ∃ bs, db.bindingsOf (declared.map Prod.snd) = .ok bs) ∨
    ∃ e r step, FirstWith (fun d => ¬ d.2.Resolvable db d.1) declared (e, r) ∧
      r.Fails db e step ∧
      db.bindingsOf (declared.map Prod.snd) = .error (r.buildError db step) := by
  induction declared with
  | nil => exact Or.inl ⟨fun _ hd => (nomatch hd), [], rfl⟩
  | cons d declared ih =>
      obtain ⟨e, r⟩ := d
      obtain ⟨howner, hrest⟩ := List.forall_mem_cons.mp howners
      rw [List.map_cons, bindingsOf]
      rcases Relation.verify_cases howner with ⟨hresolvable, id, hv⟩ | ⟨step, hfails, hv⟩
      · rw [hv]
        rcases ih hrest with ⟨hall, bs, hbs⟩ | ⟨e', r', step, hfirst, hfails, herr⟩
        · rw [hbs]
          exact Or.inl ⟨List.forall_mem_cons.mpr ⟨hresolvable, hall⟩, _, rfl⟩
        · rw [herr]
          exact Or.inr ⟨e', r', step, hfirst.cons (not_not_intro hresolvable), hfails, rfl⟩
      · rw [hv]
        exact Or.inr ⟨e, r, step, firstWith_head declared hfails.not_resolvable, hfails, rfl⟩

/-- Binding binds all relations, or reports the first that is not resolvable. -/
theorem bindRelations_cases (hp : db.Placed) :
    (db.Resolvable ∧ db.bindRelations = .ok db.allBound) ∨
    ∃ e r step, FirstWith (fun d => ¬ d.2.Resolvable db d.1) db.declared (e, r) ∧
      r.Fails db e step ∧ db.bindRelations = .error (r.buildError db step) := by
  have howners : ∀ d ∈ db.declared, d.2.owner? db = some d.1 := by
    rintro ⟨e, r⟩ hd
    obtain ⟨he, hr⟩ := mem_declared.mp hd
    exact hp.owner?_eq he hr
  rcases bindingsOf_cases howners with ⟨hall, bs, hbs⟩ | ⟨e, r, step, hfirst, hfails, herr⟩
  · refine Or.inl ⟨fun e he r hr => hall (e, r) (mem_declared.mpr ⟨he, hr⟩), ?_⟩
    have hbound : db.bindRelations = .ok (bs.foldl bind db) := by
      rw [bindRelations, ← map_snd_declared, hbs]
    rw [hbound, (bindRelations_eq_ok hp hbound).2]
  · refine Or.inr ⟨e, r, step, hfirst, hfails, ?_⟩
    rw [bindRelations, ← map_snd_declared, herr]

-- ── Finalizing ────────────────────────────────────────────────────────────────

/-- Bound relations that were resolvable have all their local fields on their owners. -/
theorem Resolvable.localsDeclared (h : db.Resolvable) :
    ∀ e ∈ db.allBound.entities, e.LocalsDeclared := by
  intro e he r hr name hname
  obtain ⟨e', he', rfl⟩ := mem_entities_mapRelations.mp he
  obtain ⟨r', hr', rfl⟩ := List.mem_map.mp hr
  exact Entity.hasField_iff.mpr ((h e' he' r' hr').locals name hname)

/-- Where all relations are resolvable and no entity is refused, finalizing goes through. -/
theorem finalize_of_resolvable (hp : db.Placed) (hresolvable : db.Resolvable)
    (haccepted : p.dialect = .sqlite → ∀ e ∈ db.entities, e.sqliteRefusal? = none) :
    db.finalize p = (db.finalForm p, .ok ()) := by
  have hbind : db.bindRelations = .ok db.allBound := by
    rcases bindRelations_cases hp with ⟨-, hbind⟩ | ⟨e, r, step, hfirst, -, -⟩
    · exact hbind
    · obtain ⟨he, hr⟩ := mem_declared.mp hfirst.mem.1
      exact absurd (hresolvable e he r hr) hfirst.mem.2
  have hall : ∀ e ∈ db.allBound.entities, e.LocalsDeclared ∧
      (p.dialect = .sqlite → e.sqliteRefusal? = none) := by
    refine fun e he => ⟨hresolvable.localsDeclared e he, fun hs => ?_⟩
    obtain ⟨e', he', rfl⟩ := mem_entities_mapRelations.mp he
    exact haccepted hs e' he'
  -- normalization may have dropped the finalized flag, which is set again at the end
  obtain ⟨flag, hnormalize⟩ := Platform.normalize_eq hall
  have hplaced : ({ db.allBound.allNormalized p with finalized := flag } : Database).Placed := by
    have hgrows := p.normalize_grows db.allBound
    rw [hnormalize] at hgrows
    exact hgrows.placed (hp.mapRelations fun _ => rfl)
  rw [finalize, hbind]
  dsimp only
  rw [hnormalize]
  show ({ fixNames _ with finalized := true }, _) = _
  rw [fixNames_eq hplaced]
  rfl

/-- Relations that are verified are resolvable. -/
theorem resolvable_of_verified (hp : db.Placed)
    (hverified : ∀ r ∈ db.relations, ∃ id, r.verify db = .ok id) : db.Resolvable := by
  intro e he r hr
  obtain ⟨id, hv⟩ := hverified r (mem_relations.mpr ⟨e, he, hr⟩)
  rcases Relation.verify_cases (hp.owner?_eq he hr) with ⟨hresolvable, -⟩ | ⟨step, -, herr⟩
  · exact hresolvable
  · rw [hv] at herr
    exact nomatch herr

/-- A finalization that goes through: all relations were resolvable and no entity was refused. -/
theorem resolvable_of_finalize (hp : db.Placed) (hok : db.finalize p = (d, .ok ())) :
    db.Resolvable ∧ (p.dialect = .sqlite → ∀ e ∈ db.entities, e.sqliteRefusal? = none) := by
  refine ⟨resolvable_of_verified hp (finalize_eq_ok hp hok).1, fun hs e he => ?_⟩
  obtain ⟨e', he', hfinal⟩ := forall₂_mem_left (finalize_entities hp hok) he
  have hrefusal := (finalize_settles hp hok e' he').accepted hs
  rw [Entity.sqliteRefusal?_eq_none, Entity.primaryKey, hfinal.fields] at hrefusal
  exact Entity.sqliteRefusal?_eq_none.mpr hrefusal

/-- What a finalization that goes through leaves is the final form. -/
theorem finalize_eq_finalForm (hp : db.Placed) (hok : db.finalize p = (d, .ok ())) :
    d = db.finalForm p := by
  obtain ⟨hresolvable, haccepted⟩ := resolvable_of_finalize hp hok
  rw [finalize_of_resolvable hp hresolvable haccepted] at hok
  exact (congrArg Prod.fst hok).symm

/-- Finalizing goes through exactly if all relations are verified and no entity is refused. -/
theorem finalize_eq_finalForm_iff (hp : db.Placed) :
    db.finalize p = (db.finalForm p, .ok ()) ↔
      (∀ r ∈ db.relations, ∃ id, r.verify db = .ok id) ∧
      (p.dialect = .sqlite → ∀ e ∈ db.entities, e.sqliteRefusal? = none) := by
  constructor
  · exact fun hok => ⟨(finalize_eq_ok hp hok).1, (resolvable_of_finalize hp hok).2⟩
  · rintro ⟨hverified, haccepted⟩
    exact finalize_of_resolvable hp (resolvable_of_verified hp hverified) haccepted

/-- A reachable database is finalized exactly if all of its relations are resolvable and, on SQLite,
    auto-incremented fields are whole primary keys. Otherwise, if it is for a relation, the first
    one that is not resolvable is reported with the first check that it fails, and nothing has
    happened to the database. -/
theorem finalize_accepts (h : db.Reachable) (p : Platform) :
    ((∃ d, db.finalize p = (d, .ok ())) ↔ db.Resolvable ∧
      (p.dialect = .sqlite →
        ∀ e ∈ db.entities, ∀ f ∈ e.fields, f.autoIncrement = true → e.primaryKey = [f])) ∧
    (¬ db.Resolvable → ∃ e r step,
      FirstWith (fun d => ¬ d.2.Resolvable db d.1) db.declared (e, r) ∧ r.Fails db e step ∧
      db.finalize p = (db, .error (.error ⟨db.finalizingNote, [.build {
        step
        relation := r.nameIn db
        entity := e.name
        target := ((r.targetEntity? db).map (·.name)).getD r.target }]⟩))) := by
  have hp : db.Placed := h.sound.placed
  simp only [← Entity.sqliteRefusal?_eq_none]
  constructor
  · constructor
    · rintro ⟨d, hok⟩
      exact resolvable_of_finalize hp hok
    · rintro ⟨hresolvable, haccepted⟩
      exact ⟨_, finalize_of_resolvable hp hresolvable haccepted⟩
  · intro hnot
    rcases bindRelations_cases hp with ⟨hresolvable, -⟩ | ⟨e, r, step, hfirst, hfails, hbind⟩
    · exact absurd hresolvable hnot
    · refine ⟨e, r, step, hfirst, hfails, ?_⟩
      obtain ⟨he, hr⟩ := mem_declared.mp hfirst.mem.1
      rw [finalize, hbind, Relation.buildError, hp.owner?_eq he hr]
      rfl

/-- The community with one more relation of its first entity, to an entity that does not exist. -/
def strayed : Database :=
  (community.run (.change (some 0) (.addRelation
    ((Relation.toTarget "Nobody").addReference ⟨"profile_id", "id"⟩)))).1

/-- The community is accepted everywhere, so all of its relations are resolvable. The strayed one
    is not, because of a relation that fails some check. -/
theorem finalize_accepts_community :
    (community.Reachable ∧ community.Resolvable) ∧
    strayed.Reachable ∧ ∃ e r step,
      FirstWith (fun d => ¬ d.2.Resolvable strayed d.1) strayed.declared (e, r) ∧
      r.Fails strayed e step ∧ (strayed.finalize ⟨.sqlite, false⟩).1 = strayed := by
  have hok : community.finalize ⟨.sqlite, false⟩ =
      ((community.finalize ⟨.sqlite, false⟩).1, .ok ()) := Prod.ext rfl (by decide +kernel)
  have hstrayed : strayed.Reachable := community_reachable.run _
  have hfails : ¬ ∃ d, strayed.finalize ⟨.sqlite, false⟩ = (d, .ok ()) := by
    rintro ⟨d, hd⟩
    have hreply : (strayed.finalize ⟨.sqlite, false⟩).2 ≠ .ok () := by decide +kernel
    exact hreply (congrArg Prod.snd hd)
  have hnot : ¬ strayed.Resolvable := by
    intro hresolvable
    refine hfails ((finalize_accepts hstrayed _).1.mpr ⟨hresolvable, fun _ => ?_⟩)
    decide +kernel
  obtain ⟨e, r, step, hfirst, hcheck, hrun⟩ :=
    (finalize_accepts hstrayed ⟨.sqlite, false⟩).2 hnot
  exact ⟨⟨community_reachable, ((finalize_accepts community_reachable _).1.mp ⟨_, hok⟩).1⟩,
    hstrayed, e, r, step, hfirst, hcheck, by rw [hrun]⟩

end Database

end SchemaDdl
