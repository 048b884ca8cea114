import SchemaDdl.Proofs.Finalization
import SchemaDdl.Proofs.ForeignKeys
import SchemaDdl.Proofs.Loading
import Mathlib.Data.List.Find

/-!
# Paths before and after naming

A foreign path `relation.field` is looked up twice: when relations are verified, and again when
statements are made. In between all derived names are fixed, and a fixed name takes precedence over
an accessor. So a derived name can take a path away from the relation that was meant by it, and then
the path leads to another field, or nowhere. This file says exactly when this does not happen.

* **`Entity.relationOnceNamed?`**: what a name will stand for, computed before any name is fixed.
* **`Database.finalize_entities`**: entities after finalizing, in terms of those before.
* **`Database.PathsKept`**: no path is taken away. It holds if no derived name is in use as a name
  or as an accessor (`Database.pathsKept_of_fresh`).

The main result is that a finalized database can be rendered and means what was verified if, and
only if, no path is taken away.
-/

namespace SchemaDdl

namespace Entity

/-- The relation that a name stands for once all derived names are fixed. -/
def relationOnceNamed? (t : Entity) (db : Database) (name : String) : Option Relation :=
  (t.relations.find? (·.nameIn db == name)).or (t.relations.find? (·.accessor? == some name))

/-- The field that a path leads to, given which relation a name stands for. -/
def fieldBehind? (t : Entity) (relationOf : String → Option Relation) (path : String) :
    Option Field :=
  match Text.halves? '.' path with
  | none => t.field? path
  | some (head, tail) => (relationOf head).bind fun c => Relation.chainedField? t c tail

end Entity

/-- No path is taken away by a derived name: with all names fixed, every foreign path leads to the
    field that it leads to without. -/
def Database.PathsKept (db : Database) : Prop :=
  ∀ r ∈ db.relations, ∀ t, r.targetEntity? db = some t → ∀ path ∈ r.foreignFields,
    t.fieldBehind? (t.relationOnceNamed? db) path = t.fieldBehind? t.relation? path

/-- A relation as finalizing leaves it. -/
def Relation.finalIn (r : Relation) (db : Database) : Relation :=
  (r.boundIn db).fixName (r.nameIn db)

/-- An entity after finalizing, as far as paths are concerned. -/
structure Entity.Final (db : Database) (e e' : Entity) : Prop where
  id : e'.id = e.id
  fields : e'.fields = e.fields
  relations : e'.relations = e.relations.map (·.finalIn db)

namespace Entity

variable {db : Database} {e e' : Entity}

/-- A path leads to a field if the field is behind it. -/
theorem pathTo_iff {path : String} {f : Field} :
    e.PathTo path f ↔ e.fieldBehind? e.relation? path = some f := by
  rw [fieldBehind?]
  constructor
  · intro h
    cases h with
    | direct plain found =>
        rw [plain]
        exact found
    | chained dotted relation mapped found =>
        rw [dotted]
        dsimp only
        rw [relation]
        exact Option.bind_eq_some_iff.mpr
          ⟨_, rfl, Option.bind_eq_some_iff.mpr ⟨_, mapped, found⟩⟩
  · intro h
    cases hdot : Text.halves? '.' path with
    | none =>
        rw [hdot] at h
        exact .direct hdot h
    | some halves =>
        obtain ⟨head, tail⟩ := halves
        rw [hdot] at h
        obtain ⟨c, hc, hf⟩ := Option.bind_eq_some_iff.mp h
        obtain ⟨name, hname, hfound⟩ := Option.bind_eq_some_iff.mp hf
        exact .chained hdot hc hname hfound

namespace Final

theorem field? (h : Final db e e') (name : String) : e'.field? name = e.field? name := by
  rw [Entity.field?, Entity.field?, h.fields]

/-- After finalizing, a name stands for the relation that was foreseen. -/
theorem relation? (h : Final db e e') (name : String) :
    e'.relation? name = (e.relationOnceNamed? db name).map (·.finalIn db) := by
  have hstored : (fun r : Relation => r.storedName? == some name) ∘
      (fun r : Relation => r.finalIn db) = fun r => r.nameIn db == name := by
    funext r
    show ((r.name.fix (r.nameIn db)).stored? == some name) = (r.nameIn db == name)
    cases hn : r.name with
    | explicit chosen =>
        rw [Relation.nameIn, Relation.storedName?, hn]
        rfl
    | auto fixed => rfl
  have haccessor : (fun r : Relation => r.accessor? == some name) ∘
      (fun r : Relation => r.finalIn db) = fun r => r.accessor? == some name := by
    funext r
    have hexplicit : (r.finalIn db).name.explicit? = r.name.explicit? := by
      show (r.name.fix (r.nameIn db)).explicit? = r.name.explicit?
      cases r.name with
      | explicit chosen => rfl
      | auto fixed => rfl
    have hsame : (r.finalIn db).accessor? = r.accessor? := by
      rw [Relation.accessor?, Relation.accessor?, hexplicit]
      rfl
    show ((r.finalIn db).accessor? == some name) = _
    rw [hsame]
  rw [Entity.relation?, h.relations, List.find?_map, List.find?_map, hstored, haccessor,
    relationOnceNamed?]
  cases e.relations.find? (·.nameIn db == name) with
  | none => rfl
  | some r => rfl

/-- After finalizing, a path leads to the field that was foreseen. -/
theorem fieldBehind? (h : Final db e e') (path : String) :
    e'.fieldBehind? e'.relation? path = e.fieldBehind? (e.relationOnceNamed? db) path := by
  rw [Entity.fieldBehind?, Entity.fieldBehind?]
  cases Text.halves? '.' path with
  | none => exact h.field? path
  | some halves =>
      obtain ⟨head, tail⟩ := halves
      dsimp only
      rw [h.relation?]
      cases e.relationOnceNamed? db head with
      | none => rfl
      | some c =>
          show (c.localOf? tail).bind e'.field? = (c.localOf? tail).bind e.field?
          rw [show e'.field? = e.field? from funext h.field?]

end Final

end Entity

-- ── What finalizing leaves ────────────────────────────────────────────────────

/-- Binding and growth do not change the name that a relation with a target has. -/
theorem Relation.nameIn_of_grows {db mid : Database} (hp : db.Placed) {r : Relation} {t : Entity}
    (hr : r ∈ db.relations) (ht : r.targetEntity? db = some t) (hg : db.allBound.Grows mid) :
    (r.boundIn db).nameIn mid = r.nameIn db := by
  have hfound : ∀ id e, db.entity? id = some e → ∃ e', mid.entity? id = some e' ∧
      e'.fullTable = e.fullTable ∧ e'.table = e.table := by
    intro id e he
    have hbound : db.allBound.entity? id = some (e.mapRelations (·.boundIn db)) := by
      rw [Database.allBound, Database.entity?_mapRelations, he]
      rfl
    obtain ⟨e', he', hgrown⟩ := hg.entity? hbound
    exact ⟨e', he', (congrArg Entity.fullTable hgrown.rest :),
      (congrArg Entity.table hgrown.rest :)⟩
  obtain ⟨t', ht', hfull, -⟩ := hfound t.id t (hp.entity?_id (mem_of_targetEntity? ht))
  obtain ⟨e, he, hre⟩ := Database.mem_relations.mp hr
  have howner : r.owner? db = some e := hp.owner?_eq he hre
  obtain ⟨e', he', -, htable⟩ := hfound r.id.entity e howner
  have htarget : (r.boundIn db).targetEntity? mid = some t' := by
    obtain ⟨i, hi⟩ := List.getElem?_of_mem (mem_of_targetEntity? ht)
    have hid : t.id = some i := hp.entity_id hi
    rw [targetEntity?, boundIn, ht]
    dsimp only [Option.bind_some]
    rw [hid] at ht' ⊢
    exact ht'
  have howner' : (r.boundIn db).owner? mid = some e' := he'
  have hsignature : (r.boundIn db).signature mid = r.signature db := by
    rw [signature, signature, htarget, ht, Option.map_some, Option.map_some, hfull]
    rfl
  have hauto : (r.boundIn db).autoName mid = r.autoName db := by
    rw [autoName, autoName, howner', howner, hsignature]
    dsimp only
    rw [htable]
  rw [nameIn, nameIn, hauto]
  rfl

namespace Database

variable {db d : Database} {p : Platform}

/-- Finalizing keeps the fields of all entities, and binds and names their relations. -/
theorem finalize_entities (hp : db.Placed) (hok : db.finalize p = (d, .ok ())) :
    List.Forall₂ (Entity.Final db) db.entities d.entities := by
  obtain ⟨hverified, mid, hgrows, -, rfl⟩ := finalize_eq_ok hp hok
  show List.Forall₂ (Entity.Final db) db.entities (mid.entities.map (·.namedIn mid))
  have hgrown : List.Forall₂ (fun e m => (e.mapRelations (·.boundIn db)).Grows m)
      db.entities mid.entities := List.forall₂_map_left_iff.mp hgrows.entities
  refine List.forall₂_map_right_iff.mpr (forall₂_imp_mem hgrown fun e he m hm => ?_)
  refine ⟨hm.id, hm.fields, ?_⟩
  show m.relations.map (·.namedIn mid) = e.relations.map (·.finalIn db)
  rw [hm.relations]
  show (e.relations.map (·.boundIn db)).map (·.namedIn mid) = _
  rw [List.map_map]
  refine List.map_congr_left fun r hr => ?_
  have hlist : r ∈ db.relations := mem_relations.mpr ⟨e, he, hr⟩
  obtain ⟨id, hv⟩ := hverified r hlist
  obtain ⟨-, ⟨t, ht, -⟩, -⟩ := Relation.verify_eq_ok hv
  show (r.boundIn db).fixName ((r.boundIn db).nameIn mid) = _
  rw [Relation.nameIn_of_grows hp hlist ht hgrows]
  rfl

/-- A relation is found by its id if it stands in its place on its entity. -/
theorem relation_eq_ok {id : RelationId} {r : Relation} :
    db.relation id = .ok r ↔
      ∃ e i, db.entity? id.entity = some e ∧ id.index = some i ∧ e.relations[i]? = some r := by
  rw [relation]
  cases db.entity? id.entity with
  | none => simp
  | some e =>
      cases id.index with
      | none => simp
      | some i =>
          cases hr : e.relations[i]? with
          | none => simp [hr]
          | some r' => simp [hr]

theorem mem_of_relation {id : RelationId} {r : Relation} (h : db.relation id = .ok r) :
    r ∈ db.relations := by
  obtain ⟨e, i, he, -, hi⟩ := relation_eq_ok.mp h
  exact mem_relations.mpr ⟨e, mem_of_entity? he, List.mem_of_getElem? hi⟩

/-- A relation is found by its id. -/
theorem Placed.relation_id (hp : db.Placed) {r : Relation} (hr : r ∈ db.relations) :
    db.relation r.id = .ok r := by
  obtain ⟨e, he, hre⟩ := mem_relations.mp hr
  obtain ⟨j, hj⟩ := List.getElem?_of_mem hre
  have hid := hp.numbered he hj
  refine relation_eq_ok.mpr ⟨e, j, ?_, ?_, hj⟩
  · rw [hid]
    exact hp.entity?_id he
  · rw [hid]

section Final

variable (hp : db.Placed) (hfinal : List.Forall₂ (Entity.Final db) db.entities d.entities)
include hfinal

theorem entity?_final {id : EntityId} {e : Entity} (he : db.entity? id = some e) :
    ∃ e', d.entity? id = some e' ∧ e.Final db e' := by
  cases id with
  | none => exact nomatch he
  | some i => exact forall₂_getElem? hfinal he

/-- Under the id of a relation stands, after finalizing, the relation as it was finalized. -/
theorem relation_final {id : RelationId} {r : Relation} (h : db.relation id = .ok r) :
    d.relation id = .ok (r.finalIn db) := by
  obtain ⟨e, i, he, hindex, hi⟩ := relation_eq_ok.mp h
  obtain ⟨e', he', hf⟩ := entity?_final hfinal he
  refine relation_eq_ok.mpr ⟨e', i, he', hindex, ?_⟩
  rw [hf.relations, List.getElem?_map, hi]
  rfl

/-- Local fields are found as before, since neither they nor the fields of the owner change. -/
theorem localFieldsIn_final {r : Relation} {ls : List Field} (h : r.localFieldsIn db = .ok ls) :
    (r.finalIn db).localFieldsIn d = .ok ls := by
  obtain ⟨owner, howner⟩ := Relation.owner?_of_localFieldsIn h
  obtain ⟨owner', howner', hf⟩ := entity?_final hfinal howner
  have hfound : (r.finalIn db).owner? d = some owner' := howner'
  refine (Relation.localFieldsIn_eq_ok hfound).mpr ?_
  refine ((Relation.localFieldsIn_eq_ok howner).mp h).imp fun name f hname => ?_
  rw [hf.field?]
  exact hname

include hp

/-- A relation that had a target has the same one, finalized. -/
theorem targetEntity?_final {r : Relation} {t : Entity} (ht : r.targetEntity? db = some t) :
    ∃ t', (r.finalIn db).targetEntity? d = some t' ∧ t.Final db t' := by
  obtain ⟨i, hi⟩ := List.getElem?_of_mem (Relation.mem_of_targetEntity? ht)
  obtain ⟨t', ht', hf⟩ := forall₂_getElem? hfinal hi
  refine ⟨t', ?_, hf⟩
  have hbound : (r.finalIn db).bound = some i := by
    show (r.targetEntity? db).bind (·.id) = some i
    rw [ht]
    exact hp.entity_id hi
  rw [Relation.targetEntity?, hbound]
  exact ht'

/-- After finalizing, the fields of the target's side are those that were foreseen. -/
theorem foreignFieldsIn_final {r : Relation} {t : Entity} (ht : r.targetEntity? db = some t)
    {fs : List Field} :
    (r.finalIn db).foreignFieldsIn d = .ok fs ↔
      List.Forall₂ (fun path f => t.fieldBehind? (t.relationOnceNamed? db) path = some f)
        r.foreignFields fs := by
  obtain ⟨t', ht', hf⟩ := targetEntity?_final hp hfinal ht
  have hpath : t'.PathTo =
      fun path f => t.fieldBehind? (t.relationOnceNamed? db) path = some f := by
    ext path f
    rw [Entity.pathTo_iff, hf.fieldBehind?]
  rw [Relation.foreignFieldsIn_eq_ok ht', hpath]
  rfl

/-- Where no path is taken away, a relation has the same fields on the target's side as before. -/
theorem PathsKept.foreignFieldsIn (hkept : db.PathsKept) {r : Relation} (hr : r ∈ db.relations)
    {fs : List Field} (h : r.foreignFieldsIn db = .ok fs) :
    (r.finalIn db).foreignFieldsIn d = .ok fs := by
  obtain ⟨t, ht⟩ := Relation.targetEntity?_of_foreignFieldsIn h
  refine (foreignFieldsIn_final hp hfinal ht).mpr ?_
  refine forall₂_imp_mem ((Relation.foreignFieldsIn_eq_ok ht).mp h) fun path hpath f hf => ?_
  rw [hkept r hr t ht path hpath]
  exact Entity.pathTo_iff.mp hf

/-- Where the fields of the target's side are the same as before, no path is taken away. -/
theorem fieldBehind?_of_foreignFieldsIn {r : Relation} {t : Entity}
    (ht : r.targetEntity? db = some t) {fs : List Field} (h : r.foreignFieldsIn db = .ok fs)
    (hafter : (r.finalIn db).foreignFieldsIn d = .ok fs) {path : String}
    (hpath : path ∈ r.foreignFields) :
    t.fieldBehind? (t.relationOnceNamed? db) path = t.fieldBehind? t.relation? path := by
  obtain ⟨i, hi⟩ := List.getElem?_of_mem hpath
  obtain ⟨f, hf, hold⟩ := forall₂_getElem? ((Relation.foreignFieldsIn_eq_ok ht).mp h) hi
  obtain ⟨f', hf', hnew⟩ := forall₂_getElem? ((foreignFieldsIn_final hp hfinal ht).mp hafter) hi
  rw [hf] at hf'
  injection hf' with hff
  rw [hnew, Entity.pathTo_iff.mp hold, hff]

/-- Where no path is taken away and all relations were verified, there are statements. -/
theorem PathsKept.statements (hkept : db.PathsKept)
    (hverified : ∀ r ∈ db.relations, ∃ id, r.verify db = .ok id) (q : Platform) (s : Settings) :
    ∃ stmts, d.statements q s = .ok stmts := by
  have htables : ∃ tables, d.tablesOf d.emitted = .ok tables := by
    refine tablesOf_of_keys fun e' he' => foreignKeysOf_of_keys fun r' hr' => ?_
    have hlisted : e' ∈ d.entities := (List.mem_filter.mp he').1
    obtain ⟨e, he, hf⟩ := forall₂_mem_right hfinal hlisted
    rw [hf.relations] at hr'
    obtain ⟨r, hr, rfl⟩ := List.mem_map.mp hr'
    have hrelation : r ∈ db.relations := mem_relations.mpr ⟨e, he, hr⟩
    obtain ⟨id, hv⟩ := hverified r hrelation
    obtain ⟨-, ⟨t, ht, -⟩, ⟨ls, hl⟩, ⟨fs, hfs⟩⟩ := Relation.verify_eq_ok hv
    obtain ⟨t', ht', -⟩ := targetEntity?_final hp hfinal ht
    exact ⟨⟨t', ht'⟩, ForeignKey.ofRelation_of_fields ht' (localFieldsIn_final hfinal hl)
      (hkept.foreignFieldsIn hp hfinal hrelation hfs)⟩
  obtain ⟨tables, htables⟩ := htables
  rw [Database.statements, htables]
  exact ⟨_, rfl⟩

end Final

-- ── When paths are kept ───────────────────────────────────────────────────────

/-- No derived name is in use in its entity, neither as a name nor as an accessor. -/
def FreshNames (db : Database) : Prop :=
  ∀ t ∈ db.entities, ∀ c ∈ t.relations, c.storedName? = none → ∀ c' ∈ t.relations,
    c'.storedName? ≠ some (c.nameIn db) ∧ c'.accessor? ≠ some (c.nameIn db)

instance (db : Database) : Decidable db.FreshNames :=
  inferInstanceAs (Decidable (∀ t ∈ db.entities, ∀ c ∈ t.relations, c.storedName? = none →
    ∀ c' ∈ t.relations, c'.storedName? ≠ some (c.nameIn db) ∧ c'.accessor? ≠ some (c.nameIn db)))

/-- A name that stands for a relation goes on doing so if no derived name is in use. -/
theorem FreshNames.relationOnceNamed? (hfresh : db.FreshNames) {t : Entity}
    (ht : t ∈ db.entities) {name : String} {c : Relation} (hc : t.relation? name = some c) :
    t.relationOnceNamed? db name = t.relation? name := by
  have hused : ∃ c' ∈ t.relations, c'.storedName? = some name ∨ c'.accessor? = some name := by
    rcases Option.or_eq_some_iff.mp hc with hstored | ⟨-, haccessor⟩
    · exact ⟨c, List.mem_of_find?_eq_some hstored, Or.inl (eq_of_beq (List.find?_some hstored :))⟩
    · exact ⟨c, List.mem_of_find?_eq_some haccessor,
        Or.inr (eq_of_beq (List.find?_some haccessor :))⟩
  have hnames : t.relations.find? (·.nameIn db == name) =
      t.relations.find? (·.storedName? == some name) := by
    refine List.find?_congr fun r hr => ?_
    cases hs : r.storedName? with
    | some stored =>
        rw [Relation.nameIn, hs]
        rfl
    | none =>
        rw [show (none == some name) = false from rfl, beq_eq_false_iff_ne]
        rintro rfl
        obtain ⟨c', hc', hstored | haccessor⟩ := hused
        · exact (hfresh t ht r hr hs c' hc').1 hstored
        · exact (hfresh t ht r hr hs c' hc').2 haccessor
  rw [Entity.relationOnceNamed?, hnames, Entity.relation?]

/-- No path of a verified relation is taken away if no derived name is in use. -/
theorem pathsKept_of_fresh (hverified : ∀ r ∈ db.relations, ∃ id, r.verify db = .ok id)
    (hfresh : db.FreshNames) : db.PathsKept := by
  intro r hr t ht path hpath
  obtain ⟨id, hv⟩ := hverified r hr
  obtain ⟨-, -, -, fs, hfs⟩ := Relation.verify_eq_ok hv
  obtain ⟨f, -, hpathTo⟩ := forall₂_mem_left ((Relation.foreignFieldsIn_eq_ok ht).mp hfs) hpath
  rw [Entity.fieldBehind?, Entity.fieldBehind?]
  cases hpathTo with
  | direct plain _ => rw [plain]
  | chained dotted relation _ _ =>
      rw [dotted]
      dsimp only
      rw [hfresh.relationOnceNamed? (Relation.mem_of_targetEntity? ht) relation]

/-- A loaded database that is finalized has statements, and every relation stands for the fields
    that were verified, if and only if no path is taken away by a derived name. -/
theorem finalize_paths {v : Json} (hload : Document.load v = .ok db)
    (hok : db.finalize p = (d, .ok ())) :
    ((∀ s : Settings, ∃ stmts, d.statements p s = .ok stmts) ∧
      ∀ id r, db.relation id = .ok r → ∃ r' fs, d.relation id = .ok r' ∧
        r.foreignFieldsIn db = .ok fs ∧ r'.foreignFieldsIn d = .ok fs) ↔ db.PathsKept := by
  have hp : db.Placed := (Document.reachable_of_load hload).sound.placed
  have hfinal := finalize_entities hp hok
  obtain ⟨hverified, -⟩ := finalize_eq_ok hp hok
  constructor
  · rintro ⟨-, hsame⟩ r hr t ht path hpath
    obtain ⟨r', fs, hr', hbefore, hafter⟩ := hsame r.id r (hp.relation_id hr)
    rw [relation_final hfinal (hp.relation_id hr)] at hr'
    injection hr' with hr'
    rw [← hr'] at hafter
    exact fieldBehind?_of_foreignFieldsIn hp hfinal ht hbefore hafter hpath
  · intro hkept
    refine ⟨hkept.statements hp hfinal hverified p, fun id r hr => ?_⟩
    obtain ⟨target, hv⟩ := hverified r (mem_of_relation hr)
    obtain ⟨-, -, -, fs, hfs⟩ := Relation.verify_eq_ok hv
    exact ⟨r.finalIn db, fs, relation_final hfinal hr, hfs,
      hkept.foreignFieldsIn hp hfinal (mem_of_relation hr) hfs⟩

-- ── A path that is taken away ─────────────────────────────────────────────────

private def textMember (key value : String) : String × Json := (key, .text value)

private def fieldNode (name : String) (key : Bool) : Json :=
  .object [textMember "name" name, ("primaryKey", .bool key)]

private def pairNode (localField foreignField : String) : Json :=
  .object [textMember "local" localField, textMember "foreign" foreignField]

private def relationNode (target localField foreignField : String)
    (members : List (String × Json)) : Json :=
  .object ([textMember "target" target,
    ("references", .array [pairNode localField foreignField])] ++ members)

private def entityNode (name : String) (fields relations : List Json) : Json :=
  .object [textMember "name" name, ("fields", .array fields), ("relations", .array relations)]

/-- Two relations of `B` refer to `A`: one without a name, and one with the given accessor. `C`
    refers to the field of `B` behind the accessor. -/
def twoPaths (accessor : String) : Json :=
  .object [textMember "name" "d", ("entities", .array [
    entityNode "A" [fieldNode "x" true, fieldNode "y" false] [],
    entityNode "B" [fieldNode "p" true, fieldNode "q" false] [
      relationNode "A" "p" "x" [],
      relationNode "A" "q" "y" [textMember "field" accessor]],
    entityNode "C" [fieldNode "r" true] [
      relationNode "B" "r" (Text.concat [accessor, ".y"]) [textMember "name" "c_b"]]])]

/-- Under a plain accessor the path is kept, so there are statements and the fields are those that
    were verified. -/
theorem finalize_paths_plain :
    ∃ (db d : Database), Document.load (twoPaths "second") = .ok db ∧
      db.finalize ⟨.generic, false⟩ = (d, .ok ()) ∧
      (∀ s : Settings, ∃ stmts, d.statements ⟨.generic, false⟩ s = .ok stmts) ∧
      ∀ id r, db.relation id = .ok r → ∃ r' fs, d.relation id = .ok r' ∧
        r.foreignFieldsIn db = .ok fs ∧ r'.foreignFieldsIn d = .ok fs := by
  have hrun : (match Document.load (twoPaths "second") with
      | .ok db => decide ((db.finalize ⟨.generic, false⟩).2 = .ok () ∧ db.FreshNames)
      | .error _ => false) = true := by decide +kernel
  cases hload : Document.load (twoPaths "second") with
  | error e =>
      rw [hload] at hrun
      exact nomatch hrun
  | ok db =>
      rw [hload] at hrun
      obtain ⟨hreply, hfresh⟩ := of_decide_eq_true hrun
      have hok : db.finalize ⟨.generic, false⟩ = ((db.finalize ⟨.generic, false⟩).1, .ok ()) :=
        Prod.ext rfl hreply
      have hp : db.Placed := (Document.reachable_of_load hload).sound.placed
      have hverified := (finalize_eq_ok hp hok).1
      have hkept := pathsKept_of_fresh hverified hfresh
      exact ⟨db, _, rfl, hok, (finalize_paths hload hok).mpr hkept⟩

/-- Under an accessor that is the derived name of the relation before it, the path is taken away:
    finalizing goes through, and there are no statements. -/
theorem finalize_paths_shadowed :
    ∃ (db d : Database), Document.load (twoPaths "b_fk_9bbe96") = .ok db ∧
      db.finalize ⟨.generic, false⟩ = (d, .ok ()) ∧
      ∃ e, d.statements ⟨.generic, false⟩ .standard = .error e := by
  have hrun : (match Document.load (twoPaths "b_fk_9bbe96") with
      | .ok db => decide ((db.finalize ⟨.generic, false⟩).2 = .ok () ∧
          ((db.finalize ⟨.generic, false⟩).1.statements ⟨.generic, false⟩ .standard).isOk = false)
      | .error _ => false) = true := by decide +kernel
  cases hload : Document.load (twoPaths "b_fk_9bbe96") with
  | error e =>
      rw [hload] at hrun
      exact nomatch hrun
  | ok db =>
      rw [hload] at hrun
      obtain ⟨hreply, hfails⟩ := of_decide_eq_true hrun
      refine ⟨db, (db.finalize ⟨.generic, false⟩).1, rfl, Prod.ext rfl hreply, ?_⟩
      cases hstmts : (db.finalize ⟨.generic, false⟩).1.statements ⟨.generic, false⟩ .standard with
      | ok stmts =>
          rw [hstmts] at hfails
          exact nomatch hfails
      | error e => exact ⟨e, rfl⟩

end Database

end SchemaDdl
