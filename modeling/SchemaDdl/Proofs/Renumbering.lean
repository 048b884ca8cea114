import SchemaDdl.Proofs.Acceptance
import Mathlib.Data.List.Nodup
import Mathlib.Logic.Equiv.Basic

/-!
# Renumbering

Ids are positions. When the same entities stand in another order, every id is another number, and
nothing else is different: what names stand for, which relations point back, what is missing in a
relation, and all texts. So a database can be followed through finalizing together with a renumbered
copy of itself.

* **`Relation.renumber`**, **`Entity.renumber`**: other numbers for the entities.
* **`Database.Renumbered`**: one database is the other under other numbers. No name may occur twice,
  for of several entities of one name the first counts.
* **`Database.Renumbered.finalForm`**, **`Database.Renumbered.finalize_iff`**: finalizing goes
  through for both or for neither, and what it leaves is renumbered again.
-/

namespace SchemaDdl

/-- A relation under other numbers for the entities. -/
def Relation.renumber (σ : Equiv.Perm ℕ) (r : Relation) : Relation :=
  { r with id := ⟨r.id.entity.map σ, r.id.index⟩, bound := r.bound.map σ }

/-- An entity under other numbers. -/
def Entity.renumber (σ : Equiv.Perm ℕ) (e : Entity) : Entity :=
  { e with id := e.id.map σ, relations := e.relations.map (Relation.renumber σ) }

/-- Two databases that differ in the numbers of their entities only, and perhaps in the finalized
    flag. -/
structure Database.Renumbered (σ : Equiv.Perm ℕ) (db db' : Database) : Prop where
  rest : { db' with entities := db.entities, finalized := db.finalized } = db
  entities : ∀ i, db'.entities[σ i]? = (db.entities[i]?).map (Entity.renumber σ)
  names : (db.entities.map (·.name)).Nodup
  fullNames : (db.entities.map (·.fullName)).Nodup

theorem map_beq_map_some {σ : Equiv.Perm ℕ} (a b : Option ℕ) :
    (some (a.map σ) == some (b.map σ)) = (some a == some b) := by
  have hinj : Function.Injective (Option.map σ) := Option.map_injective σ.injective
  rw [Bool.eq_iff_iff, beq_iff_eq, beq_iff_eq, Option.some_inj, Option.some_inj, hinj.eq_iff]

namespace Relation

variable (σ : Equiv.Perm ℕ) (r candidate : Relation)

/-- Renumbering tells relations apart just as before. -/
theorem id_ne_renumber :
    ((candidate.renumber σ).id != (r.renumber σ).id) = (candidate.id != r.id) := by
  have hiff : (candidate.renumber σ).id = (r.renumber σ).id ↔ candidate.id = r.id := by
    have hinj : Function.Injective (Option.map σ) := Option.map_injective σ.injective
    constructor
    · intro h
      injection h with hentity hindex
      exact congrArg₂ RelationId.mk (hinj hentity) hindex
    · intro h
      show (⟨candidate.id.entity.map σ, candidate.id.index⟩ : RelationId) =
        ⟨r.id.entity.map σ, r.id.index⟩
      rw [h]
  rw [Bool.eq_iff_iff, bne_iff_ne, bne_iff_ne]
  exact not_congr hiff

end Relation

namespace Entity

variable (σ : Equiv.Perm ℕ) (e : Entity)

/-- A relation is found by its name, which has no number in it. -/
theorem relation?_renumber (name : String) :
    (e.renumber σ).relation? name = (e.relation? name).map (Relation.renumber σ) := by
  show ((e.relations.map _).find? _).or ((e.relations.map _).find? _) = _
  rw [List.find?_map, List.find?_map, relation?]
  show ((e.relations.find? (·.storedName? == some name)).map _).or
    ((e.relations.find? (·.accessor? == some name)).map _) = _
  cases e.relations.find? (·.storedName? == some name) with
  | none => rfl
  | some r => rfl

/-- Renumbering goes together with a change to relations that does not look at numbers. -/
theorem mapRelations_renumber {f f' : Relation → Relation}
    (hf : ∀ r, f' (r.renumber σ) = (f r).renumber σ) :
    (e.renumber σ).mapRelations f' = (e.mapRelations f).renumber σ := by
  show { e.renumber σ with relations := (e.relations.map (Relation.renumber σ)).map f' } =
    { e.renumber σ with relations := (e.relations.map f).map (Relation.renumber σ) }
  rw [List.map_map, List.map_map,
    show f' ∘ Relation.renumber σ = Relation.renumber σ ∘ f from funext hf]

theorem relationNames_renumber :
    Database.relationNames (e.renumber σ) = Database.relationNames e := by
  show ((e.relations.map (Relation.renumber σ)).filter _).map _ = _
  rw [List.filter_map, List.map_map]
  rfl

end Entity

namespace Database.Renumbered

variable {σ : Equiv.Perm ℕ} {db db' : Database} {p : Platform}

theorem name (h : Renumbered σ db db') : db'.name = db.name := (congrArg Database.name h.rest :)

theorem defaultIdMethod (h : Renumbered σ db db') : db'.defaultIdMethod = db.defaultIdMethod :=
  (congrArg Database.defaultIdMethod h.rest :)

theorem heavyIndexing (h : Renumbered σ db db') : db'.heavyIndexing = db.heavyIndexing :=
  (congrArg Database.heavyIndexing h.rest :)

-- ── Look-up ───────────────────────────────────────────────────────────────────

theorem mem (h : Renumbered σ db db') {e : Entity} (he : e ∈ db.entities) :
    e.renumber σ ∈ db'.entities := by
  obtain ⟨i, hi⟩ := List.getElem?_of_mem he
  refine List.mem_of_getElem? (i := σ i) ?_
  rw [h.entities, hi]
  rfl

/-- Every entity is a renumbered one, since a permutation misses no place. -/
theorem of_mem (h : Renumbered σ db db') {e' : Entity} (he' : e' ∈ db'.entities) :
    ∃ e ∈ db.entities, e.renumber σ = e' := by
  obtain ⟨i, hi⟩ := List.getElem?_of_mem he'
  have hplace := h.entities (σ.symm i)
  rw [Equiv.apply_symm_apply, hi] at hplace
  obtain ⟨e, he, heq⟩ := Option.map_eq_some_iff.mp hplace.symm
  exact ⟨e, List.mem_of_getElem? he, heq⟩

theorem mem_relations_iff (h : Renumbered σ db db') {r' : Relation} :
    r' ∈ db'.relations ↔ ∃ r ∈ db.relations, r.renumber σ = r' := by
  constructor
  · intro hr'
    obtain ⟨e', he', hr'⟩ := mem_relations.mp hr'
    obtain ⟨e, he, rfl⟩ := h.of_mem he'
    obtain ⟨r, hr, rfl⟩ := List.mem_map.mp hr'
    exact ⟨r, mem_relations.mpr ⟨e, he, hr⟩, rfl⟩
  · rintro ⟨r, hr, rfl⟩
    obtain ⟨e, he, hr⟩ := mem_relations.mp hr
    exact mem_relations.mpr ⟨e.renumber σ, h.mem he, List.mem_map.mpr ⟨r, hr, rfl⟩⟩

theorem entity? (h : Renumbered σ db db') (id : EntityId) :
    db'.entity? (id.map σ) = (db.entity? id).map (Entity.renumber σ) := by
  cases id with
  | none => rfl
  | some i => exact h.entities i

/-- A look-up by a key that occurs once does not depend on the order. -/
theorem find?_key (h : Renumbered σ db db') {key : Entity → String}
    (hkey : ∀ e, key (e.renumber σ) = key e) (hnodup : (db.entities.map key).Nodup)
    (name : String) :
    db'.entities.find? (key · == name) =
      (db.entities.find? (key · == name)).map (Entity.renumber σ) := by
  cases hfind : db.entities.find? (key · == name) with
  | none =>
      refine List.find?_eq_none.mpr fun e' he' => ?_
      obtain ⟨e, he, rfl⟩ := h.of_mem he'
      rw [hkey]
      exact List.find?_eq_none.mp hfind e he
  | some e =>
      have he : e ∈ db.entities := List.mem_of_find?_eq_some hfind
      have hname : key e = name := eq_of_beq (List.find?_some hfind :)
      -- something is found under the other numbers, and it has the same key
      have hsome : (db'.entities.find? (key · == name)).isSome = true := by
        rw [List.find?_isSome]
        refine ⟨e.renumber σ, h.mem he, ?_⟩
        rw [hkey, hname]
        exact beq_self_eq_true name
      obtain ⟨e', hfind'⟩ := Option.isSome_iff_exists.mp hsome
      obtain ⟨e₀, he₀, rfl⟩ := h.of_mem (List.mem_of_find?_eq_some hfind')
      have hname₀ : key e₀ = name := (hkey e₀).symm.trans (eq_of_beq (List.find?_some hfind' :))
      have hsame : e₀ = e := List.inj_on_of_nodup_map hnodup he₀ he (hname₀.trans hname.symm)
      rw [hfind', hsame]
      rfl

/-- Names of entities are distinct, so a name stands for the same entity in any order. -/
theorem resolve? (h : Renumbered σ db db') (name : String) :
    db'.resolve? name = (db.resolve? name).map (Entity.renumber σ) := by
  have hshort : db'.byName? name = (db.byName? name).map (Entity.renumber σ) :=
    h.find?_key (fun _ => rfl) h.names name
  have hfull : db'.byFullName? name = (db.byFullName? name).map (Entity.renumber σ) :=
    h.find?_key (fun _ => rfl) h.fullNames name
  rw [Database.resolve?, Database.resolve?, hshort, hfull]
  cases db.byName? name with
  | none => rfl
  | some e => rfl

-- ── Resolving relations ───────────────────────────────────────────────────────

section Relations

variable (h : Renumbered σ db db') (r : Relation)
include h

theorem owner? : (r.renumber σ).owner? db' = (r.owner? db).map (Entity.renumber σ) :=
  h.entity? r.id.entity

/-- A bound relation has the entity of the new number, an unbound one the entity of the name. -/
theorem targetEntity? :
    (r.renumber σ).targetEntity? db' = (r.targetEntity? db).map (Entity.renumber σ) := by
  have hbound : (r.renumber σ).bound = r.bound.map σ := rfl
  rw [Relation.targetEntity?, Relation.targetEntity?, hbound]
  cases r.bound with
  | none => exact h.resolve? r.target
  | some position => exact h.entity? (some position)

/-- Derived names are made of names and pairs, so they are the same. -/
theorem nameIn : (r.renumber σ).nameIn db' = r.nameIn db := by
  have hsignature : (r.renumber σ).signature db' = r.signature db := by
    rw [Relation.signature, Relation.signature, h.targetEntity?, Option.map_map]
    rfl
  have hauto : (r.renumber σ).autoName db' = r.autoName db := by
    rw [Relation.autoName, Relation.autoName, hsignature, h.owner?]
    cases r.owner? db with
    | none => rfl
    | some owner => rfl
  rw [Relation.nameIn, Relation.nameIn, hauto]
  rfl

/-- A failure is reported under names, so it is the same failure. -/
theorem buildError (step : BuildStep) :
    (r.renumber σ).buildError db' step = r.buildError db step := by
  rw [Relation.buildError, Relation.buildError, h.nameIn, h.owner?, h.targetEntity?,
    Option.map_map, Option.map_map]
  rfl

/-- The target is the renumbered one, or missing with the same error. -/
theorem targetIn :
    (r.renumber σ).targetIn db' = (r.targetIn db).map (Entity.renumber σ) := by
  rw [Relation.targetIn, Relation.targetIn, h.targetEntity?, h.buildError]
  cases r.targetEntity? db with
  | none => rfl
  | some t => rfl

theorem ownerIn : (r.renumber σ).ownerIn db' = (r.ownerIn db).map (Entity.renumber σ) := by
  rw [Relation.ownerIn, Relation.ownerIn, h.owner?, h.nameIn, h.name]
  cases r.owner? db with
  | none => rfl
  | some owner => rfl

/-- Fields have no numbers: the same local fields are found, or the same error. -/
theorem localFieldsIn : (r.renumber σ).localFieldsIn db' = r.localFieldsIn db := by
  have hfield : ∀ owner : Entity,
      (r.renumber σ).localFieldIn db' (owner.renumber σ) = r.localFieldIn db owner := by
    intro owner
    funext name
    rw [Relation.localFieldIn, Relation.localFieldIn, h.buildError]
    rfl
  rw [Relation.localFieldsIn, Relation.localFieldsIn, h.ownerIn]
  cases r.ownerIn db with
  | error e => rfl
  | ok owner =>
      show r.localFields.mapM ((r.renumber σ).localFieldIn db' (owner.renumber σ)) = _
      rw [hfield]

/-- Behind a path stands the same field, whichever relation leads to it. -/
theorem foreignFieldIn (t : Entity) (path : String) :
    (r.renumber σ).foreignFieldIn db' (t.renumber σ) path = r.foreignFieldIn db t path := by
  rw [Relation.foreignFieldIn, Relation.foreignFieldIn]
  simp only [h.buildError]
  cases Text.halves? '.' path with
  | none => rfl
  | some halves =>
      obtain ⟨head, tail⟩ := halves
      dsimp only
      rw [t.relation?_renumber]
      cases t.relation? head with
      | none => rfl
      | some c => rfl

theorem foreignFieldsIn : (r.renumber σ).foreignFieldsIn db' = r.foreignFieldsIn db := by
  rw [Relation.foreignFieldsIn, Relation.foreignFieldsIn, h.targetIn]
  cases r.targetIn db with
  | error e => rfl
  | ok t =>
      show r.foreignFields.mapM ((r.renumber σ).foreignFieldIn db' (t.renumber σ)) = _
      rw [funext (h.foreignFieldIn r t)]

/-- Verification finds the renumbered target, or reports the same failure. -/
theorem verify : (r.renumber σ).verify db' = (r.verify db).map (Option.map σ) := by
  rw [Relation.verify, Relation.verify, h.buildError, h.targetIn, h.localFieldsIn,
    h.foreignFieldsIn]
  show (if r.references.isEmpty then _ else _) = _
  split
  · rfl
  · cases r.targetIn db with
    | error e => rfl
    | ok t =>
        cases r.localFieldsIn db with
        | error e => rfl
        | ok ls =>
            cases r.foreignFieldsIn db with
            | error e => rfl
            | ok fs => rfl

-- ── The graph ─────────────────────────────────────────────────────────────────

theorem isLocalKey : (r.renumber σ).isLocalKey db' = r.isLocalKey db := by
  rw [Relation.isLocalKey, Relation.isLocalKey, h.owner?]
  cases r.owner? db with
  | none => rfl
  | some owner => rfl

/-- A candidate has to point at the owner and must not be the relation itself. Both compare numbers,
    and a permutation keeps numbers apart. -/
theorem isInverseOf (candidate : Relation) :
    (candidate.renumber σ).isInverseOf (r.renumber σ) db' = candidate.isInverseOf r db := by
  have htarget : (((candidate.renumber σ).targetEntity? db').map (·.id) ==
      some (r.renumber σ).id.entity) =
      ((candidate.targetEntity? db).map (·.id) == some r.id.entity) := by
    rw [h.targetEntity?]
    cases candidate.targetEntity? db with
    | none => rfl
    | some t => exact map_beq_map_some t.id r.id.entity
  rw [Relation.isInverseOf, Relation.isInverseOf, htarget, Relation.id_ne_renumber]
  rfl

/-- The search for an inverse goes through the same candidates in the same order. -/
theorem hasInverse : (r.renumber σ).hasInverse db' = r.hasInverse db := by
  rw [Relation.hasInverse, Relation.hasInverse, Relation.inverse?, Relation.inverse?,
    h.targetEntity?]
  cases r.targetEntity? db with
  | none => rfl
  | some t =>
      show ((t.relations.map (Relation.renumber σ)).find?
        (Relation.isInverseOf · (r.renumber σ) db')).isSome = _
      rw [List.find?_map, Option.isSome_map]
      have htest : (Relation.isInverseOf · (r.renumber σ) db') ∘ Relation.renumber σ =
          fun candidate => candidate.isInverseOf r db := funext (h.isInverseOf r)
      rw [htest]

theorem multiplicity : (r.renumber σ).multiplicity db' = r.multiplicity db := by
  have hunique : (r.renumber σ).isUniqueOnOwner db' = r.isUniqueOnOwner db := by
    rw [Relation.isUniqueOnOwner, Relation.isUniqueOnOwner, h.owner?]
    cases r.owner? db with
    | none => rfl
    | some owner => rfl
  rw [Relation.multiplicity, Relation.multiplicity, h.isLocalKey, hunique, h.hasInverse]

/-- Binding gives a relation the new number of its target. -/
theorem boundIn : (r.renumber σ).boundIn db' = (r.boundIn db).renumber σ := by
  have hbound : ((r.renumber σ).targetEntity? db').bind (·.id) =
      ((r.targetEntity? db).bind (·.id)).map σ := by
    rw [h.targetEntity?]
    cases r.targetEntity? db with
    | none => rfl
    | some t => rfl
  rw [Relation.boundIn, hbound]
  rfl

theorem namedIn : (r.renumber σ).namedIn db' = (r.namedIn db).renumber σ := by
  rw [Relation.namedIn, h.nameIn]
  rfl

end Relations

-- ── What finalizing makes of an entity ────────────────────────────────────────

section Entities

variable (h : Renumbered σ db db') (e : Entity)
include h

/-- The same names have to be unique for the sake of inverse relations. -/
theorem inverseNames : db'.inverseNames (e.renumber σ) = db.inverseNames e := by
  have htest : (fun r : Relation => !r.isLocalKey db' && r.hasInverse db') ∘ Relation.renumber σ =
      fun r => !r.isLocalKey db && r.hasInverse db := by
    funext r
    show (!(r.renumber σ).isLocalKey db' && (r.renumber σ).hasInverse db') = _
    rw [h.isLocalKey, h.hasInverse]
  show ((e.relations.map (Relation.renumber σ)).filter _).map _ = _
  rw [List.filter_map, htest, List.map_map]
  rfl

/-- The id method is settled by the default of the database, and by fields. -/
theorem withIdMethod : (e.renumber σ).withIdMethod db' = (e.withIdMethod db).renumber σ := by
  rw [Entity.withIdMethod, Entity.withIdMethod, Entity.idMethodIn, Entity.idMethodIn,
    h.defaultIdMethod]
  by_cases hnone : e.idMethod.getD db.defaultIdMethod = .native ∧ e.autoIncrementKey?.isNone
  · rw [if_pos hnone]
    exact if_pos hnone
  · rw [if_neg hnone]
    exact if_neg hnone

theorem withInverseIndices :
    (e.renumber σ).withInverseIndices db' = (e.withInverseIndices db).renumber σ := by
  rw [Entity.withInverseIndices, h.inverseNames]
  rfl

/-- Heavy indexing is settled by the default of the database, and its indices by fields. -/
theorem withHeavyIndices :
    (e.renumber σ).withHeavyIndices db' = (e.withHeavyIndices db).renumber σ := by
  rw [Entity.withHeavyIndices, Entity.withHeavyIndices, Entity.heavyIndexingIn,
    Entity.heavyIndexingIn, h.heavyIndexing]
  show (if e.heavyIndexing.getD _ = true then _ else _) = _
  split
  · rfl
  · rfl

/-- What a platform makes of an entity does not depend on the numbers. -/
theorem normalizedIn :
    (e.renumber σ).normalizedIn p db' = (e.normalizedIn p db).renumber σ := by
  have hshared : (e.renumber σ).sharedIn db' = (e.sharedIn db).renumber σ := by
    rw [Entity.sharedIn, Entity.sharedIn, h.withIdMethod, h.withInverseIndices, h.withHeavyIndices]
  rw [Entity.normalizedIn, Entity.normalizedIn, hshared]
  cases p.dialect with
  | generic => rfl
  | postgresql => rfl
  | sqlite => rfl
  | mysql engine =>
      dsimp only
      rw [Entity.withRelationIndices, Entity.relationNames_renumber]
      rfl

theorem entity_namedIn : (e.renumber σ).namedIn db' = (e.namedIn db).renumber σ := by
  rw [Entity.namedIn, e.mapRelations_renumber σ h.namedIn]
  rfl

end Entities

-- ── Databases ─────────────────────────────────────────────────────────────────

/-- The same change made to all entities of both databases. -/
theorem mapEntities (h : Renumbered σ db db') {f f' : Entity → Entity}
    (hf : ∀ e, f' (e.renumber σ) = (f e).renumber σ) (hname : ∀ e, (f e).name = e.name)
    (hfull : ∀ e, (f e).fullName = e.fullName) :
    Renumbered σ { db with entities := db.entities.map f }
      { db' with entities := db'.entities.map f' } where
  rest := by
    have hrest := h.rest
    rw [← hrest]
  entities := by
    intro i
    rw [List.getElem?_map, List.getElem?_map, h.entities, Option.map_map, Option.map_map,
      show f' ∘ Entity.renumber σ = Entity.renumber σ ∘ f from funext hf]
  names := by
    rw [List.map_map, show (·.name) ∘ f = fun e : Entity => e.name from funext hname]
    exact h.names
  fullNames := by
    rw [List.map_map, show (·.fullName) ∘ f = fun e : Entity => e.fullName from funext hfull]
    exact h.fullNames

/-- The finalized flag does not count. -/
theorem setFlag (h : Renumbered σ db db') (flag flag' : Bool) :
    Renumbered σ { db with finalized := flag } { db' with finalized := flag' } where
  rest := by
    have hrest := h.rest
    rw [← hrest]
  entities := h.entities
  names := h.names
  fullNames := h.fullNames

/-- What finalizing makes of renumbered databases is renumbered. -/
theorem finalForm (h : Renumbered σ db db') (p : Platform) :
    Renumbered σ (db.finalForm p) (db'.finalForm p) := by
  have hbound : Renumbered σ db.allBound db'.allBound :=
    h.mapEntities (fun e => e.mapRelations_renumber σ h.boundIn) (fun _ => rfl) fun _ => rfl
  have hnormal : Renumbered σ (db.allBound.allNormalized p) (db'.allBound.allNormalized p) := by
    refine hbound.mapEntities (fun e => hbound.normalizedIn e) (fun e => ?_) fun e => ?_
    · exact (congrArg Entity.name (e.normalizedIn_grows p db.allBound).rest :)
    · exact (congrArg Entity.fullName (e.normalizedIn_grows p db.allBound).rest :)
  have hnamed : Renumbered σ (db.allBound.allNormalized p).allNamed
      (db'.allBound.allNormalized p).allNamed :=
    hnormal.mapEntities (fun e => hnormal.entity_namedIn e) (fun _ => rfl) fun _ => rfl
  exact hnamed.setFlag true true

/-- Finalizing goes through for both of two renumbered databases, or for neither. -/
theorem finalize_iff (h : Renumbered σ db db') (hp : db.Placed) (hp' : db'.Placed) (p : Platform) :
    db'.finalize p = (db'.finalForm p, .ok ()) ↔ db.finalize p = (db.finalForm p, .ok ()) := by
  rw [finalize_eq_finalForm_iff hp, finalize_eq_finalForm_iff hp']
  refine and_congr ?_ (imp_congr_right fun _ => ?_)
  · constructor
    · intro hall r hr
      obtain ⟨id, hv⟩ := hall (r.renumber σ) (h.mem_relations_iff.mpr ⟨r, hr, rfl⟩)
      rw [h.verify] at hv
      cases hverify : r.verify db with
      | error err =>
          rw [hverify] at hv
          exact nomatch hv
      | ok id => exact ⟨id, rfl⟩
    · intro hall r' hr'
      obtain ⟨r, hr, rfl⟩ := h.mem_relations_iff.mp hr'
      obtain ⟨id, hv⟩ := hall r hr
      exact ⟨id.map σ, by rw [h.verify, hv]; rfl⟩
  · constructor
    · exact fun hall e he => hall (e.renumber σ) (h.mem he)
    · intro hall e' he'
      obtain ⟨e, he, rfl⟩ := h.of_mem he'
      exact hall e he

end Database.Renumbered

end SchemaDdl
