import SchemaDdl.Proofs.Reachability
import SchemaDdl.Proofs.Verification
import SchemaDdl.Schema.Graph

/-!
# Inverse relations

The inverse of a relation is searched by its shape: the first relation of the target that points
back and maps every field the other way round. Whether the way back leads to the relation that one
started from depends on two things. What is found has to be mirrored by the start as well, which a
field name in several pairs can spoil. And the start has to be the first of its kind, for several
relations of an entity may have the same target and the same pairs.

* **`Relation.Mirrors`**, **`Relation.Parallel`**: relations of opposite and of equal shape.
* **`Relation.isInverseOf_iff`**, **`Database.inverse?_eq_some`**: the search, without maps.
* **`Relation.OneToOne.mirrors`**: mirroring is mutual if no field name is in two different pairs.

The main result says when the inverse of the inverse is the relation itself, and a small database
shows both ways in which it can be another one or none at all.
-/

namespace SchemaDdl

namespace Relation

variable {a b r : Relation} {db : Database}

-- ── Shapes ────────────────────────────────────────────────────────────────────

/-- A relation maps its local fields as another one maps its foreign fields. -/
def Mirrors (a b : Relation) : Prop := ∀ name, a.foreignOf? name = b.localOf? name

/-- Two relations have one target and map their local fields alike. -/
def Parallel (a b : Relation) (db : Database) : Prop :=
  (a.targetEntity? db).map (·.id) = (b.targetEntity? db).map (·.id) ∧
    ∀ name, a.foreignOf? name = b.foreignOf? name

/-- No field name stands in two different pairs. -/
def OneToOne (r : Relation) : Prop :=
  ∀ p ∈ r.references, ∀ q ∈ r.references,
    p.localField = q.localField ↔ p.foreignField = q.foreignField

instance (r : Relation) : Decidable r.OneToOne :=
  inferInstanceAs (Decidable (∀ p ∈ r.references, ∀ q ∈ r.references,
    p.localField = q.localField ↔ p.foreignField = q.foreignField))

/-- Without names in different pairs a look-up finds every pair. -/
theorem OneToOne.foreignOf?_eq_some (h : r.OneToOne) {name field : String} :
    r.foreignOf? name = some field ↔
      ∃ p ∈ r.references, p.localField = name ∧ p.foreignField = field :=
  OrderedMap.get?_ofList_map fun p hp q hq => (h p hp q hq).mp

theorem OneToOne.localOf?_eq_some (h : r.OneToOne) {name field : String} :
    r.localOf? field = some name ↔
      ∃ p ∈ r.references, p.foreignField = field ∧ p.localField = name :=
  OrderedMap.get?_ofList_map fun p hp q hq => (h p hp q hq).mpr

/-- Both look-ups of such a relation are inverse to one another. -/
theorem OneToOne.foreignOf?_iff_localOf? (h : r.OneToOne) {name field : String} :
    r.foreignOf? name = some field ↔ r.localOf? field = some name := by
  rw [h.foreignOf?_eq_some, h.localOf?_eq_some]
  exact exists_congr fun p => and_congr_right fun _ => and_comm

/-- Mirroring is mutual if no field name is in two different pairs. -/
theorem OneToOne.mirrors (ha : a.OneToOne) (hb : b.OneToOne) (h : b.Mirrors a) : a.Mirrors b := by
  intro name
  refine Option.ext fun field => ?_
  calc a.foreignOf? name = some field
      ↔ a.localOf? field = some name := ha.foreignOf?_iff_localOf?
    _ ↔ b.foreignOf? field = some name := by rw [h field]
    _ ↔ b.localOf? name = some field := hb.foreignOf?_iff_localOf?

-- ── The search ────────────────────────────────────────────────────────────────

/-- A candidate is another relation that points back and mirrors the start. -/
theorem isInverseOf_iff : r.isInverseOf a db = true ↔
    r.id ≠ a.id ∧ (r.targetEntity? db).map (·.id) = some a.id.entity ∧ r.Mirrors a := by
  rw [isInverseOf, Bool.and_eq_true, Bool.and_eq_true, bne_iff_ne, beq_iff_eq, and_assoc]
  exact and_congr_right fun _ => and_congr_right fun _ =>
    OrderedMap.sameMap_iff (OrderedMap.nodup_keys_ofList _) (OrderedMap.nodup_keys_ofList _)

end Relation

namespace Database

variable {db : Database} {owner t : Entity} {a b : Relation}

/-- What the search finds is the first candidate of the target. -/
theorem inverse?_eq_some (ht : a.targetEntity? db = some t) : a.inverse? db = some b ↔
    FirstWith (fun r : Relation => r.id ≠ a.id ∧
      (r.targetEntity? db).map (·.id) = some a.id.entity ∧ r.Mirrors a) t.relations b := by
  rw [Relation.inverse?, ht]
  exact find?_eq_some_firstWith fun r => Relation.isInverseOf_iff

/-- An inverse is a relation of the target and points back to the owner. -/
theorem Placed.target_of_inverse? (h : db.Placed) (howner : owner ∈ db.entities)
    (ha : a ∈ owner.relations) (hab : a.inverse? db = some b) :
    ∃ t ∈ db.entities, a.targetEntity? db = some t ∧ b ∈ t.relations ∧
      b.targetEntity? db = some owner ∧ b.id ≠ a.id ∧ b.Mirrors a := by
  cases ht : a.targetEntity? db with
  | none =>
      have hnone : a.inverse? db = none := by rw [Relation.inverse?, ht]
      exact absurd (hnone.symm.trans hab) (Option.some_ne_none b).symm
  | some t =>
      obtain ⟨hb, hne, hback, hmirrors⟩ := ((inverse?_eq_some ht).mp hab).mem
      rw [h.relation_entity howner ha, ← Relation.targetEntity?_eq_some_iff h howner] at hback
      exact ⟨t, Relation.mem_of_targetEntity? ht, rfl, hb, hback, hne, hmirrors⟩

/-- Going on from an inverse leads back to a relation exactly if that relation mirrors it too and
    is, the inverse apart, the first relation of its owner with its target and its mapping. Both
    mirror one another whenever no field name stands in two different pairs. -/
theorem inverse_of_inverse (h : db.Reachable) (howner : owner ∈ db.entities)
    (ha : a ∈ owner.relations) (hab : a.inverse? db = some b) :
    (b.inverse? db = some a ↔ a.Mirrors b ∧
      FirstWith (fun r : Relation => r.id ≠ b.id ∧ r.Parallel a db) owner.relations a) ∧
    (a.OneToOne → b.OneToOne → a.Mirrors b) := by
  obtain ⟨t, ht, htarget, hb, hback, hne, hmirrors⟩ :=
    h.sound.placed.target_of_inverse? howner ha hab
  have hid : b.id.entity = t.id := h.sound.placed.relation_entity ht hb
  refine ⟨?_, fun honeA honeB => honeA.mirrors honeB hmirrors⟩
  -- once the start mirrors its inverse, candidates for the way back are what is parallel to it
  have hsame : a.Mirrors b → ∀ r : Relation, (r.id ≠ b.id ∧
      (r.targetEntity? db).map (·.id) = some b.id.entity ∧ r.Mirrors b) ↔
      r.id ≠ b.id ∧ r.Parallel a db := by
    intro hab r
    rw [Relation.Parallel, htarget, hid]
    refine and_congr_right fun _ => and_congr_right fun _ => forall_congr' fun name => ?_
    rw [hab name]
  rw [inverse?_eq_some hback]
  constructor
  · intro hfirst
    have hab := hfirst.mem.2.2.2
    exact ⟨hab, hfirst.imp (hsame hab)⟩
  · rintro ⟨hab, hfirst⟩
    exact hfirst.imp fun r => (hsame hab r).symm

/-- In the community users and profiles point at one another, each with the first relation of its
    kind, so the way there and back ends where it started. -/
theorem inverse_of_inverse_community :
    ∃ owner a b, community.Reachable ∧ owner ∈ community.entities ∧ a ∈ owner.relations ∧
      a.inverse? community = some b ∧ b.inverse? community = some a ∧ a.Mirrors b ∧
      FirstWith (fun r : Relation => r.id ≠ b.id ∧ r.Parallel a community) owner.relations a := by
  obtain ⟨owner, howner, a, ha, b, -, hab, hba, honeA, honeB⟩ :
      ∃ owner ∈ community.entities, ∃ a ∈ owner.relations, ∃ b ∈ community.relations,
        a.inverse? community = some b ∧ b.inverse? community = some a ∧ a.OneToOne ∧
        b.OneToOne := by decide +kernel
  obtain ⟨hiff, hmirrors⟩ := inverse_of_inverse community_reachable howner ha hab
  exact ⟨owner, a, b, community_reachable, howner, ha, hab, hba, hmirrors honeA honeB,
    (hiff.mp hba).2⟩

-- ── Ways that lead elsewhere ──────────────────────────────────────────────────

/-- A relation to the other entity of the fork with some pairs. -/
private def branch (target : String) (pairs : List (String × String)) : EntityChange :=
  .addRelation { Relation.toTarget target with
    references := pairs.map fun p => ⟨p.1, p.2⟩ }

/-- Two entities. The left one has two relations of one shape, and a third one that names a field of
    the right one twice; the right one has a relation for each of both shapes. -/
def forkHistory : List Operation := [
  .addEntity ⟨"Left", [
    .addField (.plain "a" .integer), .addField (.plain "b" .integer),
    branch "Right" [("a", "x")], branch "Right" [("a", "x")],
    branch "Right" [("a", "y"), ("b", "y")]]⟩,
  .addEntity ⟨"Right", [
    .addField (.plain "x" .integer), .addField (.plain "y" .integer),
    branch "Left" [("x", "a")], branch "Left" [("y", "b")]]⟩]

/-- The state that `forkHistory` leads to. -/
def fork : Database := (named "fork").runAll forkHistory

/-- The inverse of an inverse can be another relation, where two are parallel, and there can be
    none, where a name is in two different pairs. -/
theorem inverse_of_inverse_fork :
    fork.Reachable ∧
      (∃ a ∈ fork.relations, ∃ b ∈ fork.relations, ∃ c ∈ fork.relations,
        a.inverse? fork = some b ∧ b.inverse? fork = some c ∧ c ≠ a ∧ a.OneToOne) ∧
      (∃ a ∈ fork.relations, ∃ b ∈ fork.relations,
        a.inverse? fork = some b ∧ b.inverse? fork = none ∧ ¬ a.OneToOne) ∧
      ¬ ∀ db : Database, db.Reachable → ∀ a ∈ db.relations, ∀ b ∈ db.relations,
        a.inverse? db = some b → b.inverse? db = some a := by
  have hfork : fork.Reachable := ⟨"fork", forkHistory, rfl⟩
  have hnone : ∃ a ∈ fork.relations, ∃ b ∈ fork.relations,
      a.inverse? fork = some b ∧ b.inverse? fork = none ∧ ¬ a.OneToOne := by decide +kernel
  refine ⟨hfork, by decide +kernel, hnone, fun hall => ?_⟩
  obtain ⟨a, ha, b, hb, hab, hba, -⟩ := hnone
  have hback := hall fork hfork a ha b hb hab
  rw [hba] at hback
  exact nomatch hback

end Database

end SchemaDdl
