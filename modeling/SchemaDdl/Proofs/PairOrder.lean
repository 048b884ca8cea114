import Mathlib.Data.List.Nodup
import SchemaDdl.Proofs.Inverses

/-!
# The order of pairs

A relation lists its pairs in some order, and an inverse is searched through two maps that are built
from such lists in opposite directions. If no field name occurs twice in a relation, the maps hold
the set of its pairs and nothing else. The search then finds what one would ask for without any map:
the first relation of the target that points back and has the same pairs, seen from the other side.
So the order in which pairs are listed does not matter, neither for inverses nor for multiplicities.

* **`Reference.swapped`**, **`Relation.Opposes`**: the counterpart of a relation, by sets of pairs.
* **`Relation.OneToOne.mirrors_iff`**: mirroring is equality of the sets of pairs.
* **`Database.Reordered`**: databases that differ in the order of pairs only. Every step of the
  search has one lemma that says that the order does not matter for it.
-/

namespace SchemaDdl

/-- A pair seen from the other side. -/
def Reference.swapped (p : Reference) : Reference := ⟨p.foreignField, p.localField⟩

namespace Relation

variable {a b c r r' : Relation} {db : Database} {owner : Entity}

/-- No field name occurs twice, on either side. -/
structure Distinct (r : Relation) : Prop where
  locals : r.localFields.Nodup
  foreigns : r.foreignFields.Nodup

/-- A counterpart of a relation of an owner: another relation, back to the owner, with the same
    pairs seen from the other side. -/
structure Opposes (c r : Relation) (db : Database) (owner : Entity) : Prop where
  other : c ≠ r
  back : c.targetEntity? db = some owner
  pairs : ∀ p : Reference, p ∈ c.references ↔ p.swapped ∈ r.references

-- ── Maps and sets of pairs ────────────────────────────────────────────────────

/-- Where no name occurs twice, no name stands in two different pairs. -/
theorem Distinct.oneToOne (h : r.Distinct) : r.OneToOne := by
  intro p hp q hq
  constructor
  · intro hlocal
    rw [List.inj_on_of_nodup_map h.locals hp hq hlocal]
  · intro hforeign
    rw [List.inj_on_of_nodup_map h.foreigns hp hq hforeign]

/-- The map from local to foreign fields holds the pairs. -/
theorem OneToOne.foreignOf?_iff_mem (h : r.OneToOne) {p : Reference} :
    r.foreignOf? p.localField = some p.foreignField ↔ p ∈ r.references := by
  rw [h.foreignOf?_eq_some]
  constructor
  · rintro ⟨⟨_, _⟩, hq, rfl, rfl⟩
    exact hq
  · exact fun hp => ⟨p, hp, rfl, rfl⟩

/-- The map from foreign to local fields holds the pairs, seen from the other side. -/
theorem OneToOne.localOf?_iff_mem (h : r.OneToOne) {p : Reference} :
    r.localOf? p.localField = some p.foreignField ↔ p.swapped ∈ r.references := by
  rw [← h.foreignOf?_iff_localOf?]
  exact h.foreignOf?_iff_mem (p := p.swapped)

/-- Mirroring compares sets of pairs, seen from opposite sides. -/
theorem OneToOne.mirrors_iff (ha : a.OneToOne) (hb : b.OneToOne) :
    a.Mirrors b ↔ ∀ p : Reference, p ∈ a.references ↔ p.swapped ∈ b.references := by
  constructor
  · intro h p
    rw [← ha.foreignOf?_iff_mem, ← hb.localOf?_iff_mem, h p.localField]
  · intro h name
    refine Option.ext fun field => ?_
    have hpair : (⟨name, field⟩ : Reference) ∈ a.references ↔ ⟨field, name⟩ ∈ b.references :=
      h ⟨name, field⟩
    rw [← ha.foreignOf?_iff_mem] at hpair
    exact hpair.trans (hb.localOf?_iff_mem (p := ⟨name, field⟩)).symm

end Relation

namespace Database

variable {db db' : Database} {owner t : Entity} {r r' c c' : Relation}

/-- A candidate is a counterpart, for relations of a database that repeat no name. -/
theorem Placed.isInverseOf_iff_opposes (h : db.Placed)
    (hdistinct : ∀ r ∈ db.relations, r.Distinct) (howner : owner ∈ db.entities)
    (hr : r ∈ owner.relations) (hc : c ∈ db.relations) :
    c.isInverseOf r db = true ↔ c.Opposes r db owner := by
  have hlisted : r ∈ db.relations := mem_relations.mpr ⟨owner, howner, hr⟩
  have hother : c.id ≠ r.id ↔ c ≠ r :=
    not_congr ⟨h.relation_ext hc hlisted, congrArg Relation.id⟩
  have hback : (c.targetEntity? db).map (·.id) = some r.id.entity ↔
      c.targetEntity? db = some owner := by
    rw [h.relation_entity howner hr]
    exact (Relation.targetEntity?_eq_some_iff h howner).symm
  rw [Relation.isInverseOf_iff, hother, hback,
    (hdistinct c hc).oneToOne.mirrors_iff (hdistinct r hlisted).oneToOne]
  exact ⟨fun h => ⟨h.1, h.2.1, h.2.2⟩, fun h => ⟨h.other, h.back, h.pairs⟩⟩

end Database

-- ── Another order ─────────────────────────────────────────────────────────────

/-- A relation with its pairs in another order. A derived name may be another one then. -/
structure Relation.Reordered (r r' : Relation) : Prop where
  rest : { r' with references := r.references, name := r.name } = r
  pairs : r.references.Perm r'.references

/-- An entity with the pairs of its relations in another order. -/
structure Entity.Reordered (e e' : Entity) : Prop where
  rest : { e' with relations := e.relations } = e
  relations : List.Forall₂ Relation.Reordered e.relations e'.relations

/-- A database with the pairs of its relations in another order. -/
structure Database.Reordered (db db' : Database) : Prop where
  rest : { db' with entities := db.entities } = db
  entities : List.Forall₂ Entity.Reordered db.entities db'.entities

namespace Relation.Reordered

variable {r r' : Relation}

theorem id (h : r.Reordered r') : r'.id = r.id := (congrArg Relation.id h.rest :)

theorem target (h : r.Reordered r') : r'.target = r.target := (congrArg Relation.target h.rest :)

theorem bound (h : r.Reordered r') : r'.bound = r.bound := (congrArg Relation.bound h.rest :)

theorem localFields (h : r.Reordered r') : r.localFields.Perm r'.localFields := h.pairs.map _

theorem distinct (h : r.Reordered r') (hr : r.Distinct) : r'.Distinct where
  locals := h.localFields.nodup_iff.mp hr.locals
  foreigns := (h.pairs.map _).nodup_iff.mp hr.foreigns

end Relation.Reordered

namespace Entity

variable {e e' : Entity} {names others : List String}

namespace Reordered

theorem id (h : e.Reordered e') : e'.id = e.id := (congrArg Entity.id h.rest :)

theorem name (h : e.Reordered e') : e'.name = e.name := (congrArg Entity.name h.rest :)

theorem fullName (h : e.Reordered e') : e'.fullName = e.fullName :=
  (congrArg Entity.fullName h.rest :)

theorem primaryKeyNames (h : e.Reordered e') : e'.primaryKeyNames = e.primaryKeyNames :=
  (congrArg Entity.primaryKeyNames h.rest :)

theorem hasUniqueOver (h : e.Reordered e') (names : List String) :
    e'.hasUniqueOver names = e.hasUniqueOver names :=
  (congrArg (Entity.hasUniqueOver · names) h.rest :)

end Reordered

/-- The order of names does not matter for the uniqueness test. -/
theorem hasUniqueOver_perm (h : names.Perm others) :
    e.hasUniqueOver names = e.hasUniqueOver others := by
  have hcontains : names.contains = others.contains := funext fun _ => h.contains_eq
  simp only [hasUniqueOver, keyCovers, Index.covers, h.length_eq, hcontains]

end Entity

-- ── Look-up ───────────────────────────────────────────────────────────────────

namespace Database.Reordered

variable {db db' : Database} {r r' c c' : Relation}

theorem entity? (h : db.Reordered db') (id : EntityId) :
    Option.Rel Entity.Reordered (db.entity? id) (db'.entity? id) := by
  cases id with
  | none => exact .none
  | some i => exact optionRel_getElem? h.entities i

/-- Names do not depend on the order of pairs. -/
theorem resolve? (h : db.Reordered db') (name : String) :
    Option.Rel Entity.Reordered (db.resolve? name) (db'.resolve? name) := by
  refine optionRel_or (optionRel_find? h.entities fun e _ e' he => ?_)
    (optionRel_find? h.entities fun e _ e' he => ?_)
  · rw [he.name]
  · rw [he.fullName]

theorem owner? (h : db.Reordered db') (hr : r.Reordered r') :
    Option.Rel Entity.Reordered (r.owner? db) (r'.owner? db') := by
  rw [Relation.owner?, Relation.owner?, hr.id]
  exact h.entity? r.id.entity

/-- A relation has the same target with its pairs in another order. -/
theorem targetEntity? (h : db.Reordered db') (hr : r.Reordered r') :
    Option.Rel Entity.Reordered (r.targetEntity? db) (r'.targetEntity? db') := by
  rw [Relation.targetEntity?, Relation.targetEntity?, hr.bound, hr.target]
  cases r.bound with
  | none => exact h.resolve? r.target
  | some i => exact h.entity? (some i)

-- ── The graph ─────────────────────────────────────────────────────────────────

/-- Counting names and looking them up does not depend on their order. -/
theorem isLocalKey (h : db.Reordered db') (hr : r.Reordered r') :
    r'.isLocalKey db' = r.isLocalKey db := by
  have hcontains : r'.hasLocalField = r.hasLocalField :=
    funext fun _ => hr.localFields.symm.contains_eq
  have howner := h.owner? hr
  rw [Relation.isLocalKey, Relation.isLocalKey]
  generalize r.owner? db = owner, r'.owner? db' = owner' at howner ⊢
  cases howner with
  | none => rfl
  | some he =>
      dsimp only
      rw [he.primaryKeyNames, hr.localFields.length_eq, hcontains]

/-- Nor does asking whether some unique index is over them. -/
theorem isUniqueOnOwner (h : db.Reordered db') (hr : r.Reordered r') :
    r'.isUniqueOnOwner db' = r.isUniqueOnOwner db := by
  have howner := h.owner? hr
  rw [Relation.isUniqueOnOwner, Relation.isUniqueOnOwner]
  generalize r.owner? db = owner, r'.owner? db' = owner' at howner ⊢
  cases howner with
  | none => rfl
  | some he =>
      dsimp only
      rw [he.hasUniqueOver, Entity.hasUniqueOver_perm hr.localFields]

/-- Where no name occurs twice, a candidate is one in any order of its pairs and of those of the
    relation that an inverse is searched for. -/
theorem isInverseOf (h : db.Reordered db') (hr : r.Reordered r') (hc : c.Reordered c')
    (hrd : r.Distinct) (hcd : c.Distinct) : c'.isInverseOf r' db' = c.isInverseOf r db := by
  have htarget : (c'.targetEntity? db').map (·.id) = (c.targetEntity? db).map (·.id) :=
    optionRel_map_eq (h.targetEntity? hc) fun _ _ he => he.id
  have hmirrors : c'.Mirrors r' ↔ c.Mirrors r := by
    rw [(hc.distinct hcd).oneToOne.mirrors_iff (hr.distinct hrd).oneToOne,
      hcd.oneToOne.mirrors_iff hrd.oneToOne]
    exact forall_congr' fun p => iff_congr hc.pairs.mem_iff.symm hr.pairs.mem_iff.symm
  rw [Bool.eq_iff_iff, Relation.isInverseOf_iff, Relation.isInverseOf_iff, hc.id, hr.id, htarget,
    hmirrors]

/-- The search for an inverse ends at the same relation. -/
theorem inverse? (h : db.Reordered db') (hdistinct : ∀ r ∈ db.relations, r.Distinct)
    (hr : r.Reordered r') (hlisted : r ∈ db.relations) :
    Option.Rel Relation.Reordered (r.inverse? db) (r'.inverse? db') := by
  have htarget := h.targetEntity? hr
  rw [Relation.inverse?, Relation.inverse?]
  generalize ht : r.targetEntity? db = target, r'.targetEntity? db' = target' at htarget ⊢
  cases htarget with
  | none => exact .none
  | @some t t' he =>
      refine optionRel_find? he.relations fun c hc c' hcc => ?_
      have hclisted : c ∈ db.relations :=
        mem_relations.mpr ⟨t, Relation.mem_of_targetEntity? ht, hc⟩
      exact (h.isInverseOf hr hcc (hdistinct r hlisted) (hdistinct c hclisted)).symm

/-- So the multiplicity of a relation does not depend on the order of its pairs. -/
theorem multiplicity (h : db.Reordered db') (hdistinct : ∀ r ∈ db.relations, r.Distinct)
    (hr : r.Reordered r') (hlisted : r ∈ db.relations) :
    r'.multiplicity db' = r.multiplicity db := by
  have hinverse : r'.hasInverse db' = r.hasInverse db :=
    optionRel_isSome (h.inverse? hdistinct hr hlisted)
  rw [Relation.multiplicity, Relation.multiplicity, h.isLocalKey hr, h.isUniqueOnOwner hr, hinverse]

/-- The relations are in step. -/
theorem relations (h : db.Reordered db') :
    List.Forall₂ Relation.Reordered db.relations db'.relations :=
  List.rel_flatMap h.entities fun _ _ he => he.relations

end Database.Reordered

-- ── The inverse ───────────────────────────────────────────────────────────────

namespace Database

variable {db : Database} {owner : Entity} {r c : Relation}

/-- What the search finds is the first counterpart among the relations of the target. -/
theorem Placed.inverse?_eq_some (h : db.Placed) (hdistinct : ∀ r ∈ db.relations, r.Distinct)
    (howner : owner ∈ db.entities) (hr : r ∈ owner.relations) :
    r.inverse? db = some c ↔ ∃ t, r.targetEntity? db = some t ∧
      FirstWith (·.Opposes r db owner) t.relations c := by
  cases ht : r.targetEntity? db with
  | none =>
      rw [Relation.inverse?, ht]
      refine iff_of_false (Option.some_ne_none c).symm ?_
      rintro ⟨t, hnone, -⟩
      exact (Option.some_ne_none t).symm hnone
  | some t =>
      have hfirst : FirstWith (·.isInverseOf r db = true) t.relations c ↔
          FirstWith (·.Opposes r db owner) t.relations c :=
        firstWith_congr fun c hc => h.isInverseOf_iff_opposes hdistinct howner hr
          (mem_relations.mpr ⟨t, Relation.mem_of_targetEntity? ht, hc⟩)
      rw [Relation.inverse?, ht]
      dsimp only
      rw [find?_eq_some_firstWith fun _ => Iff.rfl, hfirst]
      constructor
      · exact fun hc => ⟨t, rfl, hc⟩
      · rintro ⟨t', heq, hc⟩
        rw [Option.some.inj heq]
        exact hc

/-- The search finds nothing if the target has no counterpart. -/
theorem Placed.inverse?_eq_none (h : db.Placed) (hdistinct : ∀ r ∈ db.relations, r.Distinct)
    (howner : owner ∈ db.entities) (hr : r ∈ owner.relations) :
    r.inverse? db = none ↔
      ∀ t, r.targetEntity? db = some t → ∀ c ∈ t.relations, ¬ c.Opposes r db owner := by
  cases ht : r.targetEntity? db with
  | none =>
      rw [Relation.inverse?, ht]
      exact iff_of_true rfl fun t hnone => absurd hnone (Option.some_ne_none t).symm
  | some t =>
      have hcandidate : ∀ c ∈ t.relations, (¬ c.isInverseOf r db = true ↔ ¬ c.Opposes r db owner) :=
        fun c hc => not_congr (h.isInverseOf_iff_opposes hdistinct howner hr
          (mem_relations.mpr ⟨t, Relation.mem_of_targetEntity? ht, hc⟩))
      rw [Relation.inverse?, ht]
      dsimp only
      rw [List.find?_eq_none]
      constructor
      · intro hnone t' heq c hc
        rw [← Option.some.inj heq] at hc
        exact (hcandidate c hc).mp (hnone c hc)
      · exact fun hnone c hc => (hcandidate c hc).mpr (hnone t rfl c hc)

/-- In a database whose relations repeat no field name, the inverse of a relation is the first
    other relation of its target that points back with the same set of pairs, seen from the other
    side, and there is none if the target has no such relation. In whatever order the pairs of
    relations are listed, all inverses and all multiplicities are the same. -/
theorem inverse?_opposes (h : db.Reachable) (hdistinct : ∀ r ∈ db.relations, r.Distinct) :
    (∀ owner ∈ db.entities, ∀ r ∈ owner.relations,
      (∀ c, r.inverse? db = some c ↔ ∃ t, r.targetEntity? db = some t ∧
        FirstWith (·.Opposes r db owner) t.relations c) ∧
      (r.inverse? db = none ↔
        ∀ t, r.targetEntity? db = some t → ∀ c ∈ t.relations, ¬ c.Opposes r db owner)) ∧
    ∀ db', db.Reordered db' → List.Forall₂
      (fun r r' => (r'.inverse? db').map (·.id) = (r.inverse? db).map (·.id) ∧
        r'.multiplicity db' = r.multiplicity db) db.relations db'.relations := by
  have hp : db.Placed := h.sound.placed
  constructor
  · intro owner howner r hr
    exact ⟨fun c => hp.inverse?_eq_some hdistinct howner hr,
      hp.inverse?_eq_none hdistinct howner hr⟩
  · intro db' hreordered
    refine forall₂_imp_mem hreordered.relations fun r hr r' hrr => ⟨?_, ?_⟩
    · exact optionRel_map_eq (hreordered.inverse? hdistinct hrr hr) fun _ _ hc => hc.id
    · exact hreordered.multiplicity hdistinct hrr hr

-- ── Seats and tickets ─────────────────────────────────────────────────────────

/-- Seats and tickets that point at one another with two pairs, which they list in opposite
    order. -/
def theatreHistory : List Operation := [
  .addEntity ⟨"Seat", [
    .addField (.plain "row" .integer), .addField (.plain "place" .integer),
    .addRelation { Relation.toTarget "Ticket" with
      references := [⟨"row", "seat_row"⟩, ⟨"place", "seat_place"⟩] }]⟩,
  .addEntity ⟨"Ticket", [
    .addField (.plain "seat_row" .integer), .addField (.plain "seat_place" .integer),
    .addRelation { Relation.toTarget "Seat" with
      references := [⟨"seat_place", "place"⟩, ⟨"seat_row", "row"⟩] }]⟩]

/-- The state that `theatreHistory` leads to. -/
def theatre : Database := (named "theatre").runAll theatreHistory

/-- A database with the pairs of all relations from last to first. -/
def reversed (db : Database) : Database :=
  db.mapRelations fun r => { r with references := r.references.reverse }

/-- Reversing is one way to put pairs in another order. -/
theorem reordered_reversed (db : Database) : db.Reordered db.reversed where
  rest := rfl
  entities := List.forall₂_map_right_iff.mpr <| List.forall₂_same.mpr fun _ _ =>
    ⟨rfl, List.forall₂_map_right_iff.mpr <| List.forall₂_same.mpr fun _ _ =>
      ⟨rfl, (List.reverse_perm _).symm⟩⟩

/-- The ticket's relation is the counterpart of the seat's, although it lists its pairs in another
    order, and it still is when both list them from last to first. -/
theorem inverse?_opposes_theatre :
    ∃ seat r c, theatre.Reachable ∧ (∀ r ∈ theatre.relations, r.Distinct) ∧
      seat ∈ theatre.entities ∧ r ∈ seat.relations ∧ r.inverse? theatre = some c ∧
      c.Opposes r theatre seat ∧ theatre.Reordered theatre.reversed ∧
      theatre.reversed ≠ theatre ∧ List.Forall₂
        (fun r r' => (r'.inverse? theatre.reversed).map (·.id) = (r.inverse? theatre).map (·.id) ∧
          r'.multiplicity theatre.reversed = r.multiplicity theatre)
        theatre.relations theatre.reversed.relations := by
  have hreach : theatre.Reachable := ⟨"theatre", theatreHistory, rfl⟩
  have hdistinct : ∀ r ∈ theatre.relations, r.Distinct := by
    have hnames : ∀ r ∈ theatre.relations, r.localFields.Nodup ∧ r.foreignFields.Nodup := by
      decide +kernel
    exact fun r hr => ⟨(hnames r hr).1, (hnames r hr).2⟩
  obtain ⟨seat, hseat, r, hr, c, -, hc⟩ : ∃ seat ∈ theatre.entities, ∃ r ∈ seat.relations,
      ∃ c ∈ theatre.relations, r.inverse? theatre = some c := by decide +kernel
  obtain ⟨hinverse, horder⟩ := inverse?_opposes hreach hdistinct
  obtain ⟨t, -, hfirst⟩ := ((hinverse seat hseat r hr).1 c).mp hc
  exact ⟨seat, r, c, hreach, hdistinct, hseat, hr, hc, hfirst.mem.2, theatre.reordered_reversed,
    by decide +kernel, horder _ theatre.reordered_reversed⟩

end Database

end SchemaDdl
