import SchemaDdl.Ddl.Script
import SchemaDdl.Proofs.Resolution

/-!
# Foreign keys

A foreign key is made from a relation by looking up the fields of both sides and zipping them.
Zipping would drop what has no partner, but both sides come from one list of pairs, so nothing is
dropped.

* **`ForeignKey.Joins`**: what a foreign key has in common with its relation.
* **`ForeignKey.ofRelation_eq_ok`**: a foreign key that is made joins what the relation joins.
* **`Database.constrained`**: the relations that foreign keys are made for, by the three marks that
  can forbid one.
* **`Database.tablesOf_keys`**: they are the relations that keys are made for, one key for each.
-/

namespace SchemaDdl

/-- A foreign key ties the owner's local fields to the fields of the target that the foreign paths
    lead to, pair by pair, and there is at least one pair. -/
structure ForeignKey.Joins (key : ForeignKey) (r : Relation) (owner target : Entity) : Prop where
  table : key.table = owner.id
  references : key.references = target.id
  columns : key.columns = r.localFields
  declared : ∀ name ∈ key.columns, owner.hasField name = true
  paths : List.Forall₂ (fun path name => ∃ f, target.PathTo path f ∧ f.name = name)
    r.foreignFields key.referencedColumns
  referencedDeclared : ∀ name ∈ key.referencedColumns, target.hasField name = true
  length : key.referencedColumns.length = key.columns.length
  nonempty : key.columns ≠ []

namespace Database

/-- Whether a relation gets a foreign key: it is not marked, and it has a target that is not. -/
def constrains (db : Database) (r : Relation) : Bool :=
  !r.skipSql && (r.targetEntity? db).any (!·.skipSql)

/-- The relations of emitted entities that get a foreign key, in order of declaration. -/
def constrained (db : Database) : List Relation :=
  (db.emitted.flatMap (·.relations)).filter db.constrains

end Database

namespace ForeignKey

variable {db : Database} {r : Relation} {key : ForeignKey}

/-- Both sides of a relation have as many names. -/
private theorem length_foreignFields (r : Relation) :
    r.foreignFields.length = r.localFields.length := by
  simp [Relation.foreignFields, Relation.localFields]

/-- A foreign key is made only from the fields of both sides, pair by pair. -/
theorem ofRelation_eq_ok (h : ofRelation db r = .ok key) :
    ∃ target ls fs, r.targetEntity? db = some target ∧ r.localFieldsIn db = .ok ls ∧
      r.foreignFieldsIn db = .ok fs ∧ key.table = r.id.entity ∧ key.references = target.id ∧
      key.columns = (ls.zip fs).map (·.1.name) ∧
      key.referencedColumns = (ls.zip fs).map (·.2.name) := by
  rw [ofRelation] at h
  cases ht : r.targetIn db with
  | error e => simp [ht] at h
  | ok target =>
      rw [ht] at h
      simp only [Relation.fieldPairsIn] at h
      cases hl : r.localFieldsIn db with
      | error e => simp [hl] at h
      | ok ls =>
          cases hf : r.foreignFieldsIn db with
          | error e => simp [hl, hf] at h
          | ok fs =>
              simp only [hl, hf] at h
              injection h with h
              subst h
              exact ⟨target, ls, fs, Relation.targetIn_eq_ok.mp ht, rfl, rfl, rfl, rfl, rfl, rfl⟩

/-- What a foreign key takes over from its relation as it is. -/
theorem written_of_ofRelation (h : ofRelation db r = .ok key) :
    key.name = r.nameIn db ∧ key.onUpdate = r.onUpdate ∧ key.onDelete = r.onDelete := by
  rw [ofRelation] at h
  cases ht : r.targetIn db with
  | error e => simp [ht] at h
  | ok target =>
      cases hpairs : r.fieldPairsIn db with
      | error e => simp [ht, hpairs] at h
      | ok pairs =>
          simp only [ht, hpairs] at h
          injection h with h
          subst h
          exact ⟨rfl, rfl, rfl⟩

/-- Where target and fields are found, a foreign key is made. -/
theorem ofRelation_of_fields {target : Entity} {ls fs : List Field}
    (ht : r.targetEntity? db = some target) (hl : r.localFieldsIn db = .ok ls)
    (hf : r.foreignFieldsIn db = .ok fs) : ∃ key, ofRelation db r = .ok key := by
  rw [ofRelation, Relation.targetIn_eq_ok.mpr ht]
  simp only [Relation.fieldPairsIn, hl, hf]
  exact ⟨_, rfl⟩

/-- On a placed database, a foreign key that is made from a relation with pairs joins what the
    relation joins. -/
theorem joins_of_ofRelation (hp : db.Placed) (hne : r.references ≠ [])
    (h : ofRelation db r = .ok key) :
    ∃ owner target, r.owner? db = some owner ∧ r.targetEntity? db = some target ∧
      key.Joins r owner target := by
  obtain ⟨target, ls, fs, ht, hl, hf, htable, hreferences, hcolumns, hreferenced⟩ :=
    ofRelation_eq_ok h
  obtain ⟨owner, howner⟩ := Relation.owner?_of_localFieldsIn hl
  have hlocal := (Relation.localFieldsIn_eq_ok howner).mp hl
  have hforeign := (Relation.foreignFieldsIn_eq_ok ht).mp hf
  -- the two sides have as many fields as there are pairs, so zipping drops none
  have hlength : ls.length = fs.length := by
    rw [← hlocal.length_eq, ← hforeign.length_eq, length_foreignFields]
  have hfst : key.columns = ls.map (·.name) := by
    have hzip : ((ls.zip fs).map Prod.fst).map (·.name) = key.columns := by
      rw [List.map_map, hcolumns]
      rfl
    rw [← hzip, List.map_fst_zip (Nat.le_of_eq hlength)]
  have hsnd : key.referencedColumns = fs.map (·.name) := by
    have hzip : ((ls.zip fs).map Prod.snd).map (·.name) = key.referencedColumns := by
      rw [List.map_map, hreferenced]
      rfl
    rw [← hzip, List.map_snd_zip (Nat.le_of_eq hlength.symm)]
  have hnames : key.columns = r.localFields := hfst.trans (Entity.map_name_of_field? hlocal)
  refine ⟨owner, target, howner, ht, ?_⟩
  exact {
    table := htable.trans (hp.id_of_entity? howner).symm
    references := hreferences
    columns := hnames
    declared := by
      rw [hnames]
      exact Relation.hasField_of_localFieldsIn howner hl
    paths := by
      rw [hsnd]
      exact List.forall₂_map_right_iff.mpr (hforeign.imp fun _ f hpath => ⟨f, hpath, rfl⟩)
    referencedDeclared := by
      intro name hname
      rw [hsnd] at hname
      obtain ⟨f, hmem, rfl⟩ := List.mem_map.mp hname
      exact Relation.hasField_of_foreignFieldsIn ht hf f hmem
    length := by rw [hfst, hsnd, List.length_map, List.length_map, hlength]
    nonempty := by
      rw [hnames]
      exact fun hnil => hne (List.map_eq_nil_iff.mp hnil) }

end ForeignKey

namespace Database

variable {db : Database}

-- ── Which relations get a key ─────────────────────────────────────────────────

/-- If it can be said whether a relation gets a foreign key, it gets one just if neither the
    relation nor its target is skipped. -/
theorem emitsForeignKey_eq_ok {r : Relation} {emits : Bool}
    (h : db.emitsForeignKey r = .ok emits) : emits = db.constrains r := by
  rw [emitsForeignKey] at h
  rw [constrains]
  cases hskip : r.skipSql with
  | true =>
      rw [hskip] at h
      injection h with h
      exact h.symm
  | false =>
      rw [hskip] at h
      cases ht : r.targetIn db with
      | error e =>
          rw [ht] at h
          exact nomatch h
      | ok target =>
          rw [ht] at h
          injection h with h
          rw [Relation.targetIn_eq_ok.mp ht, ← h]
          rfl

/-- The keys of a list of relations: one for each that gets a key, in order. -/
theorem foreignKeysOf_eq_ok {rs : List Relation} {keys : List ForeignKey}
    (h : db.foreignKeysOf rs = .ok keys) :
    List.Forall₂ (fun r key => ForeignKey.ofRelation db r = .ok key)
      (rs.filter db.constrains) keys := by
  induction rs generalizing keys with
  | nil =>
      injection h with h
      rw [← h]
      exact .nil
  | cons r rs ih =>
      rw [foreignKeysOf] at h
      cases he : db.emitsForeignKey r with
      | error e => simp [he] at h
      | ok emits =>
          have hemits := emitsForeignKey_eq_ok he
          rw [he] at h
          cases emits with
          | false =>
              rw [List.filter_cons_of_neg (by simp [← hemits])]
              exact ih h
          | true =>
              rw [List.filter_cons_of_pos hemits.symm]
              dsimp only at h
              cases hkey : ForeignKey.ofRelation db r with
              | error e => simp [hkey] at h
              | ok key =>
                  cases hrest : db.foreignKeysOf rs with
                  | error e => simp [hkey, hrest] at h
                  | ok rest =>
                      simp only [hkey, hrest] at h
                      injection h with h
                      rw [← h]
                      exact .cons hkey (ih hrest)

/-- Tables are the entities with their keys, in order. -/
theorem tablesOf_eq_ok {es : List Entity} {tables : List (Entity × List ForeignKey)}
    (h : db.tablesOf es = .ok tables) :
    List.Forall₂ (fun e t => t.1 = e ∧ db.foreignKeysOf e.relations = .ok t.2) es tables := by
  induction es generalizing tables with
  | nil =>
      injection h with h
      rw [← h]
      exact .nil
  | cons e es ih =>
      rw [tablesOf] at h
      cases hkeys : db.foreignKeysOf e.relations with
      | error err => simp [hkeys] at h
      | ok keys =>
          cases hrest : db.tablesOf es with
          | error err => simp [hkeys, hrest] at h
          | ok rest =>
              simp only [hkeys, hrest] at h
              injection h with h
              rw [← h]
              exact .cons ⟨rfl, hkeys⟩ (ih hrest)

/-- There is one table for each entity, in order. -/
theorem map_fst_tablesOf {es : List Entity} {tables : List (Entity × List ForeignKey)}
    (h : db.tablesOf es = .ok tables) : tables.map Prod.fst = es := by
  have htables := tablesOf_eq_ok h
  clear h
  induction htables with
  | nil => rfl
  | cons hfirst _ ih => rw [List.map_cons, ih, hfirst.1]

/-- All keys together: one for each relation of the entities that gets a key, in order. -/
theorem tablesOf_keys {es : List Entity} {tables : List (Entity × List ForeignKey)}
    (h : db.tablesOf es = .ok tables) :
    List.Forall₂ (fun r key => ForeignKey.ofRelation db r = .ok key)
      ((es.flatMap (·.relations)).filter db.constrains) (tables.flatMap (·.2)) := by
  have htables := tablesOf_eq_ok h
  clear h
  induction htables with
  | nil => exact .nil
  | cons hfirst _ ih =>
      obtain ⟨-, hkeys⟩ := hfirst
      rw [List.flatMap_cons, List.flatMap_cons, List.filter_append]
      exact List.rel_append (foreignKeysOf_eq_ok hkeys) ih

-- ── Keys that can be made ─────────────────────────────────────────────────────

/-- Where a key can be made for each relation, and each has a target, there are keys. -/
theorem foreignKeysOf_of_keys {rs : List Relation}
    (h : ∀ r ∈ rs, (∃ t, r.targetEntity? db = some t) ∧
      ∃ key, ForeignKey.ofRelation db r = .ok key) : ∃ keys, db.foreignKeysOf rs = .ok keys := by
  induction rs with
  | nil => exact ⟨[], rfl⟩
  | cons r rs ih =>
      obtain ⟨⟨t, ht⟩, key, hkey⟩ := h r List.mem_cons_self
      obtain ⟨keys, hkeys⟩ := ih fun r' hr' => h r' (List.mem_cons_of_mem r hr')
      have hemits : ∃ emits, db.emitsForeignKey r = .ok emits := by
        rw [emitsForeignKey, Relation.targetIn_eq_ok.mpr ht]
        split
        · exact ⟨_, rfl⟩
        · exact ⟨_, rfl⟩
      obtain ⟨emits, hemits⟩ := hemits
      rw [foreignKeysOf, hemits]
      cases emits with
      | false => exact ⟨keys, hkeys⟩
      | true => exact ⟨key :: keys, by simp [hkey, hkeys]⟩

/-- Where there are keys for each entity, there are tables. -/
theorem tablesOf_of_keys {es : List Entity}
    (h : ∀ e ∈ es, ∃ keys, db.foreignKeysOf e.relations = .ok keys) :
    ∃ tables, db.tablesOf es = .ok tables := by
  induction es with
  | nil => exact ⟨[], rfl⟩
  | cons e es ih =>
      obtain ⟨keys, hkeys⟩ := h e List.mem_cons_self
      obtain ⟨tables, htables⟩ := ih fun e' he' => h e' (List.mem_cons_of_mem e he')
      exact ⟨(e, keys) :: tables, by simp [tablesOf, hkeys, htables]⟩

end Database

end SchemaDdl
