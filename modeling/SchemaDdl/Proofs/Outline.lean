import SchemaDdl.Proofs.Growth

/-!
# The outline of a database

Once targets are bound, finalizing changes id methods, indices, derived names and the finalized
flag, and nothing else. What is left when these are taken out is the outline. Whatever can be
computed from the outline is the same before and after: owners, targets, keys and inverses.

* **`Database.outline`**: a database without what finalizing changes once targets are bound.
* **`Relation.targetEntity?_outline`**, **`Relation.hasInverse_outline`**: what depends on nothing
  but the outline.
* **`Database.Grows.outline`**: growth does not change it.
-/

namespace SchemaDdl

/-- A relation without a fixed derived name. -/
def Relation.outline (r : Relation) : Relation := { r with name := r.name.reset }

/-- An entity without id method, indices and fixed derived names. -/
def Entity.outline (e : Entity) : Entity :=
  { e with idMethod := none, indices := [], relations := e.relations.map Relation.outline }

/-- A database without what finalizing changes once targets are bound. -/
def Database.outline (db : Database) : Database :=
  { db with entities := db.entities.map Entity.outline, finalized := false }

namespace Database

-- ── Look-up ───────────────────────────────────────────────────────────────────

/-- Taking the outline can be done before or after an entity is looked up. -/
theorem entity?_outline (db : Database) (id : EntityId) :
    db.outline.entity? id = (db.entity? id).map Entity.outline := by
  cases id with
  | none => rfl
  | some i => exact List.getElem?_map

/-- Names and schemas are in the outline, so a name stands for the same entity. -/
theorem resolve?_outline (db : Database) (name : String) :
    db.outline.resolve? name = (db.resolve? name).map Entity.outline := by
  have hshort : db.outline.byName? name = (db.byName? name).map Entity.outline := List.find?_map
  have hfull : db.outline.byFullName? name = (db.byFullName? name).map Entity.outline :=
    List.find?_map
  simp only [resolve?]
  rw [hshort, hfull]
  cases db.byName? name with
  | none => rfl
  | some e => rfl

end Database

namespace Relation

variable (r : Relation) (db : Database)

theorem owner?_outline : r.outline.owner? db.outline = (r.owner? db).map Entity.outline :=
  db.entity?_outline r.id.entity

/-- So are bindings, so a relation has the same target. -/
theorem targetEntity?_outline :
    r.outline.targetEntity? db.outline = (r.targetEntity? db).map Entity.outline := by
  have hbound : r.outline.bound = r.bound := rfl
  rw [targetEntity?, targetEntity?, hbound]
  cases r.bound with
  | none => exact db.resolve?_outline r.target
  | some position => exact db.entity?_outline (some position)

-- ── Keys and inverses ─────────────────────────────────────────────────────────

/-- Fields are in the outline, and with them the primary key that local fields are compared with. -/
theorem isLocalKey_outline : r.outline.isLocalKey db.outline = r.isLocalKey db := by
  simp only [isLocalKey]
  rw [owner?_outline]
  cases r.owner? db with
  | none => rfl
  | some owner => rfl

theorem isInverseOf_outline (candidate : Relation) :
    candidate.outline.isInverseOf r.outline db.outline = candidate.isInverseOf r db := by
  simp only [isInverseOf]
  rw [targetEntity?_outline, Option.map_map]
  rfl

/-- Inverses are found by targets and pairs, which are in the outline. -/
theorem inverse?_outline :
    r.outline.inverse? db.outline = (r.inverse? db).map Relation.outline := by
  simp only [inverse?]
  rw [targetEntity?_outline]
  cases r.targetEntity? db with
  | none => rfl
  | some target =>
      have htest : (fun candidate => isInverseOf candidate r.outline db.outline) ∘
          Relation.outline = fun candidate => isInverseOf candidate r db := by
        funext candidate
        exact isInverseOf_outline r db candidate
      show (target.relations.map Relation.outline).find? _ = _
      rw [List.find?_map, htest]

theorem hasInverse_outline : r.outline.hasInverse db.outline = r.hasInverse db := by
  simp only [hasInverse]
  rw [inverse?_outline, Option.isSome_map]

end Relation

namespace Database

/-- Which names have to be unique for inverse relations can be read off the outlines. -/
theorem inverseNames_outline (db : Database) (e : Entity) :
    db.outline.inverseNames e.outline = db.inverseNames e := by
  have htest : (fun r : Relation => !r.isLocalKey db.outline && r.hasInverse db.outline) ∘
      Relation.outline = fun r => !r.isLocalKey db && r.hasInverse db := by
    funext r
    show (!r.outline.isLocalKey db.outline && r.outline.hasInverse db.outline) = _
    rw [Relation.isLocalKey_outline, Relation.hasInverse_outline]
  simp only [inverseNames]
  show ((e.relations.map Relation.outline).filter _).map _ = _
  rw [List.filter_map, htest, List.map_map]
  rfl

theorem relationNames_outline (e : Entity) : relationNames e.outline = relationNames e := by
  simp only [relationNames]
  show ((e.relations.map Relation.outline).filter _).map _ = _
  rw [List.filter_map, List.map_map]
  rfl

end Database

-- ── Growth keeps the outline ──────────────────────────────────────────────────

theorem Entity.Grows.outline {e e' : Entity} (h : e.Grows e') : e'.outline = e.outline :=
  (congrArg Entity.outline h.rest :)

/-- Growth does not change the outline. -/
theorem Database.Grows.outline {db db' : Database} (h : db.Grows db') :
    db'.outline = db.outline := by
  have hlists : ∀ l l' : List Entity, List.Forall₂ Entity.Grows l l' →
      l'.map Entity.outline = l.map Entity.outline := by
    intro l l' hl
    induction hl with
    | nil => rfl
    | cons hab _ ih => rw [List.map_cons, List.map_cons, hab.outline, ih]
  have hrest : { db' with entities := db.entities.map Entity.outline, finalized := false } =
      db.outline := (congrArg Database.outline h.rest :)
  rw [← hrest, ← hlists _ _ h.entities]
  rfl

end SchemaDdl
