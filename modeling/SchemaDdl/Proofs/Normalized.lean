import SchemaDdl.Proofs.Normalization
import SchemaDdl.Proofs.Resolution

/-!
# What a normalization comes to

Where all local fields are fields of their owners and nothing is refused, no index that is planned
can be refused either, so a normalization goes through. It then replaces each entity by one that can
be computed from the entity and from the outline of the database alone. So it does not matter what
was done to other entities before.

* **`Entity.normalizedIn`**: the entity that a platform makes of an entity.
* **`Database.Replaces`**: an outcome that went through and replaced one entity. There is one lemma
  of this form for every part of a normalization.
* **`Platform.normalize_eq`**: the whole of it, on all entities.
-/

namespace SchemaDdl

namespace Entity

/-- The local fields of all relations are fields of the entity. -/
def LocalsDeclared (e : Entity) : Prop :=
  ∀ r ∈ e.relations, ∀ name ∈ r.localFields, e.hasField name = true

/-- An entity with an index over each of some lists of names. -/
def withIndices (e : Entity) (unique : Bool) (planned : List (List String)) : Entity :=
  { e with indices := e.indices ++ planned.map (Index.ofNames unique) }

/-- An entity that has given up native ids if no key field is auto-incremented. -/
def withIdMethod (e : Entity) (db : Database) : Entity :=
  if e.idMethodIn db = .native ∧ e.autoIncrementKey?.isNone then { e with idMethod := some .none }
  else e

def withInverseIndices (e : Entity) (db : Database) : Entity :=
  e.withIndices true (planIndices e.hasUniqueOver (db.inverseNames e))

def withHeavyIndices (e : Entity) (db : Database) : Entity :=
  if e.heavyIndexingIn db then
    e.withIndices false (planIndices e.isIndexedByPrefix (Database.heavyNames e))
  else e

def withRelationIndices (e : Entity) : Entity :=
  e.withIndices false (planIndices e.isIndexedByPrefix (Database.relationNames e))

/-- What all platforms make of an entity. -/
def sharedIn (e : Entity) (db : Database) : Entity :=
  ((e.withIdMethod db).withInverseIndices db).withHeavyIndices db

/-- What a platform makes of an entity. -/
def normalizedIn (e : Entity) (p : Platform) (db : Database) : Entity :=
  match p.dialect with
  | .mysql _ => (e.sharedIn db).withRelationIndices
  | _ => e.sharedIn db

end Entity

namespace Database

/-- A database with every entity as a platform makes it. -/
def allNormalized (db : Database) (p : Platform) : Database :=
  { db with entities := db.entities.map (·.normalizedIn p db) }

/-- A step went through and replaced the entity at a place. It may have dropped the finalized
    flag. -/
def Replaces (db : Database) (i : Nat) (e : Entity) (o : Outcome) : Prop :=
  ∃ flag, o = ({ db with entities := db.entities.set i e, finalized := flag }, .ok ())

end Database

/-- Only lists that were wanted are planned, and no empty ones. -/
theorem mem_planIndices {satisfied : List String → Bool} {wanted : List (List String)}
    {names : List String} (h : names ∈ planIndices satisfied wanted) :
    names ∈ wanted ∧ names ≠ [] := by
  have hrun : ∀ wanted planned : List (List String),
      names ∈ wanted.foldl (planStep satisfied) planned →
        names ∈ planned ∨ names ∈ wanted ∧ names ≠ [] := by
    intro wanted
    induction wanted with
    | nil => exact fun _ h => Or.inl h
    | cons w wanted ih =>
        intro planned h
        rcases ih _ h with hplanned | ⟨hrest, hne⟩
        · rw [planStep] at hplanned
          split at hplanned
          · exact Or.inl hplanned
          · rename_i hnew
            rcases List.mem_append.mp hplanned with hold | hlast
            · exact Or.inl hold
            · rw [List.mem_singleton.mp hlast]
              refine Or.inr ⟨List.mem_cons_self, fun hnil => hnew ?_⟩
              simp [hnil]
        · exact Or.inr ⟨List.mem_cons_of_mem w hrest, hne⟩
  rcases hrun wanted [] h with hnil | hwanted
  · cases hnil
  · exact hwanted

namespace Entity

variable {e e' : Entity} {db db' : Database}

-- ── Growth ────────────────────────────────────────────────────────────────────

theorem withIndices_grows (e : Entity) (unique : Bool) (planned : List (List String)) :
    e.Grows (e.withIndices unique planned) :=
  ⟨rfl, Or.inl rfl, List.prefix_append _ _⟩

/-- Giving up native ids is growth. -/
theorem withIdMethod_grows (e : Entity) (db : Database) : e.Grows (e.withIdMethod db) := by
  rw [withIdMethod]
  split
  · exact ⟨rfl, Or.inr rfl, List.prefix_rfl⟩
  · exact .refl e

theorem withHeavyIndices_grows (e : Entity) (db : Database) :
    e.Grows (e.withHeavyIndices db) := by
  rw [withHeavyIndices]
  split
  · exact e.withIndices_grows false _
  · exact .refl e

theorem sharedIn_grows (e : Entity) (db : Database) : e.Grows (e.sharedIn db) :=
  ((e.withIdMethod_grows db).trans (withIndices_grows _ true _)).trans
    (withHeavyIndices_grows _ db)

/-- What a platform makes of an entity has grown from it. -/
theorem normalizedIn_grows (e : Entity) (p : Platform) (db : Database) :
    e.Grows (e.normalizedIn p db) := by
  rw [normalizedIn]
  split
  · exact (e.sharedIn_grows db).trans (withIndices_grows _ false _)
  · exact e.sharedIn_grows db

/-- Growing takes no field away and adds no relation. -/
theorem Grows.localsDeclared (h : e.Grows e') (hl : e.LocalsDeclared) : e'.LocalsDeclared := by
  intro r hr name hname
  rw [h.relations] at hr
  rw [hasField, field?, h.fields]
  exact hl r hr name hname

-- ── Only the outline of the database counts ───────────────────────────────────

/-- Of the database, only the default id method matters for an entity. -/
theorem withIdMethod_congr (h : db'.outline = db.outline) :
    e.withIdMethod db' = e.withIdMethod db := by
  have hdefault : db'.defaultIdMethod = db.defaultIdMethod :=
    (congrArg Database.defaultIdMethod h :)
  rw [withIdMethod, withIdMethod, idMethodIn, idMethodIn, hdefault]

/-- Inverse relations are the same in databases of one outline, so the same indices are wanted. -/
theorem withInverseIndices_congr (h : db'.outline = db.outline) :
    e.withInverseIndices db' = e.withInverseIndices db := by
  rw [withInverseIndices, withInverseIndices, ← Database.inverseNames_outline, h,
    Database.inverseNames_outline]

/-- Of the database, only its default matters for heavy indexing. -/
theorem withHeavyIndices_congr (h : db'.outline = db.outline) :
    e.withHeavyIndices db' = e.withHeavyIndices db := by
  have hdefault : db'.heavyIndexing = db.heavyIndexing := (congrArg Database.heavyIndexing h :)
  rw [withHeavyIndices, withHeavyIndices, heavyIndexingIn, heavyIndexingIn, hdefault]

/-- What a platform makes of an entity does not depend on what has been made of others before. -/
theorem normalizedIn_congr (p : Platform) (h : db'.outline = db.outline) :
    e.normalizedIn p db' = e.normalizedIn p db := by
  have hshared : e.sharedIn db' = e.sharedIn db := by
    rw [sharedIn, sharedIn, withIdMethod_congr h, withInverseIndices_congr h,
      withHeavyIndices_congr h]
  rw [normalizedIn, normalizedIn, hshared]

end Entity

namespace Database

variable {db : Database} {i : Nat} {e e' : Entity}

-- ── Replacing an entity ───────────────────────────────────────────────────────

theorem set_eq_self {α : Type} {items : List α} {a : α} (ha : items[i]? = some a) :
    items.set i a = items := by
  obtain ⟨hi, rfl⟩ := List.getElem?_eq_some_iff.mp ha
  exact List.set_getElem_self hi

/-- An entity that has grown in its place does not change the outline of the database. -/
theorem outline_set (he : db.entity? (some i) = some e) (hgrows : e.Grows e') (flag : Bool) :
    { db with entities := db.entities.set i e', finalized := flag }.outline = db.outline := by
  have hsame : (db.entities.set i e').map Entity.outline = db.entities.map Entity.outline := by
    rw [List.map_set, hgrows.outline]
    refine set_eq_self ?_
    rw [List.getElem?_map]
    exact congrArg (Option.map Entity.outline) he
  show { db with entities := (db.entities.set i e').map Entity.outline, finalized := false } = _
  rw [hsame]
  rfl

/-- Growth in place keeps local fields declared. -/
theorem localsDeclared_set (hl : ∀ e ∈ db.entities, e.LocalsDeclared)
    (he : db.entity? (some i) = some e) (hgrows : e.Grows e') :
    ∀ e'' ∈ db.entities.set i e', e''.LocalsDeclared := by
  intro e'' he''
  rcases List.mem_or_eq_of_mem_set he'' with hold | rfl
  · exact hl e'' hold
  · exact hgrows.localsDeclared (hl e (mem_of_entity? he))

theorem replaces_self (he : db.entity? (some i) = some e) : db.Replaces i e (db, .ok ()) :=
  ⟨db.finalized, by rw [set_eq_self he]⟩

/-- A step that replaces what an earlier one put at the same place. -/
theorem Replaces.andThen {o : Outcome} {next : Database → Outcome} (h : db.Replaces i e o)
    (hnext : ∀ flag, { db with entities := db.entities.set i e, finalized := flag }.Replaces i e'
      (next { db with entities := db.entities.set i e, finalized := flag })) :
    db.Replaces i e' (o.andThen next) := by
  obtain ⟨flag, rfl⟩ := h
  obtain ⟨flag', heq⟩ := hnext flag
  refine ⟨flag', heq.trans ?_⟩
  show ({ db with entities := (db.entities.set i e).set i e', finalized := flag' }, _) = _
  rw [List.set_set]

theorem entity?_replaced (he : db.entity? (some i) = some e) (flag : Bool) :
    { db with entities := db.entities.set i e', finalized := flag }.entity? (some i) = some e' :=
  List.getElem?_set_self (List.getElem?_eq_some_iff.mp he).1

theorem updateEntity_replaces {change : Entity → Except Violation Entity}
    (he : db.entity? (some i) = some e) (hc : change e = .ok e') :
    db.Replaces i e' (db.updateEntity (some i) change) :=
  ⟨false, by simp [updateEntity, unfinalized, ← entity?_some, he, hc]⟩

-- ── The steps ─────────────────────────────────────────────────────────────────

/-- Fixing the id method replaces the entity by one that has given up native ids where it must. -/
theorem fixIdMethod_replaces (he : db.entity? (some i) = some e) :
    db.Replaces i (e.withIdMethod db) (db.fixIdMethod (some i)) := by
  rw [fixIdMethod, withEntity_of_some he, Entity.withIdMethod]
  split
  · exact updateEntity_replaces he rfl
  · exact replaces_self he

/-- Indices over fields are added without refusal. -/
theorem addIndices_replaces (unique : Bool) {planned : List (List String)}
    (he : db.entity? (some i) = some e)
    (hplanned : ∀ names ∈ planned, names ≠ [] ∧ ∀ name ∈ names, e.hasField name = true) :
    db.Replaces i (e.withIndices unique planned) (addIndices (some i) unique planned db) := by
  induction planned generalizing db e with
  | nil =>
      have hsame : e.withIndices unique [] = e := by simp [Entity.withIndices]
      rw [hsame]
      exact replaces_self he
  | cons names rest ih =>
      obtain ⟨hne, hdeclared⟩ := hplanned names List.mem_cons_self
      have hadd : e.addIndex (.ofNames unique names) = .ok (e.withIndices unique [names]) := by
        have hfound : (Index.ofNames unique names).fieldNames.find? (fun name => !e.hasField name) =
            none := by
          refine List.find?_eq_none.mpr fun name hname => ?_
          simp only [Index.fieldNames, Index.ofNames, List.map_map, List.mem_map] at hname
          obtain ⟨name', hname', rfl⟩ := hname
          simp [hdeclared name' hname']
        rw [Entity.addIndex, if_neg (by simp [Index.ofNames, hne]), hfound]
        rfl
      have hsplit : (e.withIndices unique [names]).withIndices unique rest =
          e.withIndices unique (names :: rest) := by
        simp [Entity.withIndices, List.append_assoc]
      rw [addIndices, ← hsplit]
      refine (updateEntity_replaces he hadd).andThen fun flag => ?_
      exact ih (entity?_replaced he flag) fun names' hnames' =>
        hplanned names' (List.mem_cons_of_mem names hnames')

/-- Indices over local fields are never refused, since these are fields of the entity. -/
theorem ensureInverseIndices_replaces (he : db.entity? (some i) = some e) (hl : e.LocalsDeclared) :
    db.Replaces i (e.withInverseIndices db) (db.ensureInverseIndices (some i)) := by
  rw [ensureInverseIndices, withEntity_of_some he]
  refine addIndices_replaces true he fun names hnames => ?_
  obtain ⟨hwanted, hne⟩ := mem_planIndices hnames
  obtain ⟨r, hr, rfl⟩ := List.mem_map.mp hwanted
  exact ⟨hne, hl r (List.mem_filter.mp hr).1⟩

/-- Nor are indices over the local fields of all relations. -/
theorem ensureRelationIndices_replaces (he : db.entity? (some i) = some e) (hl : e.LocalsDeclared) :
    db.Replaces i e.withRelationIndices (db.ensureRelationIndices (some i)) := by
  rw [ensureRelationIndices, withEntity_of_some he]
  refine addIndices_replaces false he fun names hnames => ?_
  obtain ⟨hwanted, hne⟩ := mem_planIndices hnames
  obtain ⟨r, hr, rfl⟩ := List.mem_map.mp hwanted
  exact ⟨hne, hl r (List.mem_filter.mp hr).1⟩

/-- Key fields are fields, so heavy indexing is never refused. -/
theorem ensureHeavyIndices_replaces (he : db.entity? (some i) = some e) :
    db.Replaces i (e.withHeavyIndices db) (db.ensureHeavyIndices (some i)) := by
  rw [ensureHeavyIndices, withEntity_of_some he,
    Entity.withHeavyIndices]
  split
  · refine addIndices_replaces false he fun names hnames => ?_
    obtain ⟨hwanted, hne⟩ := mem_planIndices hnames
    obtain ⟨name, hname, rfl⟩ := List.mem_map.mp hwanted
    refine ⟨hne, fun name' hname' => ?_⟩
    rw [List.mem_singleton.mp hname']
    obtain ⟨f, hf, rfl⟩ := List.mem_map.mp (List.mem_of_mem_drop hname)
    exact Entity.hasField_iff.mpr ⟨f, (List.mem_filter.mp hf).1, rfl⟩
  · exact replaces_self he

/-- One step after the other replaces the entity. A step looks at what the step before it has left
    of the database, which has the same outline. -/
theorem normalizeEntity_replaces (he : db.entity? (some i) = some e) (hl : e.LocalsDeclared) :
    db.Replaces i (e.sharedIn db) (db.normalizeEntity (some i)) := by
  have hids := e.withIdMethod_grows db
  have hinverses : (e.withIdMethod db).Grows ((e.withIdMethod db).withInverseIndices db) :=
    Entity.withIndices_grows _ true _
  have htwo : db.Replaces i ((e.withIdMethod db).withInverseIndices db)
      ((db.fixIdMethod (some i)).andThen (ensureInverseIndices (some i))) := by
    refine (fixIdMethod_replaces he).andThen fun flag => ?_
    rw [← Entity.withInverseIndices_congr (outline_set he hids flag)]
    exact ensureInverseIndices_replaces (entity?_replaced he flag) (hids.localsDeclared hl)
  refine htwo.andThen fun flag => ?_
  rw [Entity.sharedIn,
    ← Entity.withHeavyIndices_congr (outline_set he (hids.trans hinverses) flag)]
  exact ensureHeavyIndices_replaces (entity?_replaced he flag)

end Database

-- ── Platforms ─────────────────────────────────────────────────────────────────

namespace Platform

variable {p : Platform} {db : Database} {i : Nat} {e : Entity}

/-- An entity that is not refused is replaced by what the platform makes of it. -/
theorem normalizeEntity_replaces (he : db.entity? (some i) = some e) (hl : e.LocalsDeclared)
    (haccepted : p.dialect = .sqlite → e.sqliteRefusal? = none) :
    db.Replaces i (e.normalizedIn p db) (p.normalizeEntity (some i) db) := by
  have hshared := Database.normalizeEntity_replaces he hl
  rw [normalizeEntity, Entity.normalizedIn]
  cases hp : p.dialect with
  | generic => exact hshared
  | postgresql => exact hshared
  | mysql _ =>
      refine hshared.andThen fun flag => ?_
      exact Database.ensureRelationIndices_replaces (Database.entity?_replaced he flag)
        ((e.sharedIn_grows db).localsDeclared hl)
  | sqlite =>
      show db.Replaces i (e.sharedIn db) (db.withEntity (some i) _)
      rw [Database.withEntity_of_some he, haccepted hp]
      exact hshared

/-- What a platform makes of an entity that it made itself is the same again: the entity is settled
    by then. -/
theorem normalizedIn_normalizedIn (he : db.entity? (some i) = some e) (hl : e.LocalsDeclared)
    (haccepted : p.dialect = .sqlite → e.sqliteRefusal? = none) :
    (e.normalizedIn p db).normalizedIn p db = e.normalizedIn p db := by
  have hgrows := e.normalizedIn_grows p db
  obtain ⟨flag, hrun⟩ := normalizeEntity_replaces he hl haccepted
  have hplace : Database.entity? { db with
      entities := db.entities.set i (e.normalizedIn p db), finalized := flag } (some i) =
      some (e.normalizedIn p db) := Database.entity?_replaced he flag
  obtain ⟨e', he', hsettled⟩ := normalizeEntity_settles hrun
  have hsame : e' = e.normalizedIn p db := Option.some.inj (he'.symm.trans hplace)
  rw [hsame] at hsettled
  -- a settled entity is left alone, and replaced by what the platform makes of it
  have halone := normalizeEntity_of_settled hplace hsettled
  obtain ⟨flag', hagain⟩ := normalizeEntity_replaces hplace (hgrows.localsDeclared hl)
    hsettled.accepted
  have hentities := congrArg (fun o : Outcome => o.1.entity? (some i)) (halone.symm.trans hagain)
  dsimp only at hentities
  rw [hplace, Database.entity?_replaced hplace flag'] at hentities
  rw [← Entity.normalizedIn_congr p (Database.outline_set he hgrows flag)]
  exact (Option.some.inj hentities).symm

/-- Normalizing more entities behind one that was replaced. -/
theorem mapIdx_normalizedIn_set (he : db.entity? (some i) = some e) (hl : e.LocalsDeclared)
    (haccepted : p.dialect = .sqlite → e.sqliteRefusal? = none) (flag : Bool) (ids : List Nat) :
    (db.entities.set i (e.normalizedIn p db)).mapIdx (fun j e' => if j ∈ ids then
        e'.normalizedIn p { db with
          entities := db.entities.set i (e.normalizedIn p db), finalized := flag } else e') =
      db.entities.mapIdx fun j e' => if j ∈ i :: ids then e'.normalizedIn p db else e' := by
  have houtline := Database.outline_set he (e.normalizedIn_grows p db) flag
  obtain ⟨hi, hthere⟩ := List.getElem?_eq_some_iff.mp he
  refine List.ext_getElem? fun j => ?_
  rw [List.getElem?_mapIdx, List.getElem?_mapIdx, List.getElem?_set]
  by_cases hij : i = j
  · subst hij
    rw [if_pos rfl, if_pos hi, List.getElem?_eq_getElem hi, hthere]
    simp only [Option.map_some, List.mem_cons_self, if_true, Entity.normalizedIn_congr p houtline]
    rw [normalizedIn_normalizedIn he hl haccepted, ite_self]
  · rw [if_neg hij]
    simp [Entity.normalizedIn_congr p houtline, Ne.symm hij]

/-- A run over entities that are there and not refused, in whatever order and however often,
    replaces each of them by what the platform makes of it. -/
theorem normalizeEntities_eq (hl : ∀ e ∈ db.entities, e.LocalsDeclared) {ids : List Nat}
    (hids : ∀ i ∈ ids, ∃ e, db.entity? (some i) = some e ∧
      (p.dialect = .sqlite → e.sqliteRefusal? = none)) :
    ∃ flag, p.normalizeEntities (ids.map some) db =
      ({ db with
        entities := db.entities.mapIdx fun i e => if i ∈ ids then e.normalizedIn p db else e
        finalized := flag }, .ok ()) := by
  induction ids generalizing db with
  | nil =>
      refine ⟨db.finalized, ?_⟩
      have hsame : db.entities.mapIdx (fun i e => if i ∈ [] then e.normalizedIn p db else e) =
          db.entities := List.ext_getElem? fun i => by simp
      rw [hsame]
      rfl
  | cons i ids ih =>
      obtain ⟨e, he, haccepted⟩ := hids i List.mem_cons_self
      have hle : e.LocalsDeclared := hl e (Database.mem_of_entity? he)
      have hgrows := e.normalizedIn_grows p db
      obtain ⟨flag, hrun⟩ := normalizeEntity_replaces he hle haccepted
      have hlNext := Database.localsDeclared_set hl he hgrows
      -- what was replaced has the same outline, and so it is refused no sooner than before
      have hidsNext : ∀ j ∈ ids, ∃ e', (db.entities.set i (e.normalizedIn p db))[j]? = some e' ∧
          (p.dialect = .sqlite → e'.sqliteRefusal? = none) := by
        intro j hj
        by_cases hij : i = j
        · subst hij
          refine ⟨e.normalizedIn p db, Database.entity?_replaced he flag, fun hp => ?_⟩
          exact (congrArg Entity.sqliteRefusal? hgrows.outline :).trans (haccepted hp)
        · rw [List.getElem?_set_ne hij]
          exact hids j (List.mem_cons_of_mem i hj)
      obtain ⟨flag', hrest⟩ := @ih { db with
        entities := db.entities.set i (e.normalizedIn p db)
        finalized := flag } hlNext hidsNext
      refine ⟨flag', ?_⟩
      rw [List.map_cons, normalizeEntities, hrun, ← mapIdx_normalizedIn_set he hle haccepted flag]
      exact hrest

/-- Where all local fields are declared and nothing is refused, a normalization replaces every
    entity by what the platform makes of it. -/
theorem normalize_eq (hall : ∀ e ∈ db.entities, e.LocalsDeclared ∧
      (p.dialect = .sqlite → e.sqliteRefusal? = none)) :
    ∃ flag, p.normalize db = ({ db.allNormalized p with finalized := flag }, .ok ()) := by
  have hids : ∀ i ∈ List.range db.entities.length, ∃ e, db.entity? (some i) = some e ∧
      (p.dialect = .sqlite → e.sqliteRefusal? = none) := by
    intro i hi
    have hlt : i < db.entities.length := List.mem_range.mp hi
    exact ⟨db.entities[i], List.getElem?_eq_getElem hlt, (hall _ (List.getElem_mem hlt)).2⟩
  obtain ⟨flag, hrun⟩ := normalizeEntities_eq (fun e he => (hall e he).1) hids
  refine ⟨flag, hrun.trans ?_⟩
  congr 2
  refine List.ext_getElem? fun i => ?_
  show _ = (db.entities.map (·.normalizedIn p db))[i]?
  rw [List.getElem?_mapIdx, List.getElem?_map]
  by_cases hi : i < db.entities.length
  · simp [hi]
  · simp [List.getElem?_eq_none (Nat.le_of_not_lt hi)]

end Platform

end SchemaDdl
