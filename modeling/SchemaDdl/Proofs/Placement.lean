import SchemaDdl.Finalize.Basic
import SchemaDdl.Schema.Change

/-!
# Placement

Entities and relations carry the place where they stand: an entity its position in the database, a
relation the position of its owner and its own place there. This file says what it means that these
ids are right, and what can be concluded from it.

* **`Database.Placed`**: every entity and every relation has the id of its place. A relation is then
  found by its id (`Placed.relation_ext`), and its owner too (`Placed.owner?_eq`).
* **`Database.mapRelations`**: the same change made to every relation. On a placed database,
  changing the relation of an id is such a change that leaves all other relations alone
  (`Placed.modifyRelation_eq`), and so is a run of such changes (`Placed.foldl_modifyRelation`).
* Registering an entity and changing one keep the ids right (`Placed.addEntity`,
  `Placed.updateEntity`).
-/

namespace SchemaDdl

/-- The relations of an entity are numbered in order. -/
def Entity.Numbered (e : Entity) : Prop :=
  ∀ ⦃j : Nat⦄ ⦃r : Relation⦄, e.relations[j]? = some r → r.id = ⟨e.id, some j⟩

/-- Every entity and every relation has the id of its place. -/
structure Database.Placed (db : Database) : Prop where
  entity_id : ∀ ⦃i : Nat⦄ ⦃e : Entity⦄, db.entities[i]? = some e → e.id = some i
  numbered : ∀ ⦃e : Entity⦄, e ∈ db.entities → e.Numbered

/-- Make the same change to every relation of an entity. -/
def Entity.mapRelations (e : Entity) (f : Relation → Relation) : Entity :=
  { e with relations := e.relations.map f }

/-- Make the same change to every relation of a database. -/
def Database.mapRelations (db : Database) (f : Relation → Relation) : Database :=
  { db with entities := db.entities.map (·.mapRelations f) }

namespace Database

variable {db : Database} {e : Entity} {r : Relation}

-- ── Look-up by place ──────────────────────────────────────────────────────────

theorem entity?_some (db : Database) (i : Nat) : db.entity? (some i) = db.entities[i]? := rfl

/-- Only entities of the database are found by an id. -/
theorem mem_of_entity? {id : EntityId} (h : db.entity? id = some e) : e ∈ db.entities := by
  cases id with
  | none => exact nomatch h
  | some i => exact List.mem_of_getElem? h

theorem mem_relations : r ∈ db.relations ↔ ∃ e ∈ db.entities, r ∈ e.relations :=
  List.mem_flatMap

namespace Placed

/-- An entity is found by its id. -/
theorem entity?_id (h : db.Placed) (he : e ∈ db.entities) : db.entity? e.id = some e := by
  obtain ⟨i, hi⟩ := List.getElem?_of_mem he
  rw [h.entity_id hi]
  exact hi

/-- An entity that is found by an id has that id. -/
theorem id_of_entity? (h : db.Placed) {id : EntityId} (he : db.entity? id = some e) :
    e.id = id := by
  cases id with
  | none => exact nomatch he
  | some i => exact h.entity_id he

/-- The id of a relation starts with the id of its owner. -/
theorem relation_entity (h : db.Placed) (he : e ∈ db.entities) (hr : r ∈ e.relations) :
    r.id.entity = e.id := by
  obtain ⟨j, hj⟩ := List.getElem?_of_mem hr
  rw [h.numbered he hj]

/-- The owner of a relation is the entity that lists it. -/
theorem owner?_eq (h : db.Placed) (he : e ∈ db.entities) (hr : r ∈ e.relations) :
    r.owner? db = some e := by
  show db.entity? r.id.entity = some e
  rw [h.relation_entity he hr]
  exact h.entity?_id he

/-- Two entities with one id are the same. -/
theorem entity_ext (h : db.Placed) {e' : Entity} (he : e ∈ db.entities) (he' : e' ∈ db.entities)
    (hid : e.id = e'.id) : e = e' := by
  have h1 := h.entity?_id he
  rw [hid, h.entity?_id he'] at h1
  exact (Option.some.inj h1).symm

/-- No id occurs twice. -/
theorem nodup_ids (h : db.Placed) : (db.entities.map (·.id)).Nodup := by
  have hids : db.entities.map (·.id) = (List.range db.entities.length).map some := by
    refine List.ext_getElem? fun i => ?_
    rw [List.getElem?_map, List.getElem?_map]
    by_cases hi : i < db.entities.length
    · have he := List.getElem?_eq_getElem hi
      rw [he, List.getElem?_range hi, Option.map_some, Option.map_some, h.entity_id he]
    · have hle : db.entities.length ≤ i := by omega
      simp [hle]
  rw [hids]
  exact List.Pairwise.map some (fun _ _ hne heq => hne (Option.some.inj heq)) List.nodup_range

/-- Two relations with one id are the same. -/
theorem relation_ext (h : db.Placed) {r' : Relation} (hr : r ∈ db.relations)
    (hr' : r' ∈ db.relations) (hid : r.id = r'.id) : r = r' := by
  obtain ⟨e, he, hre⟩ := mem_relations.mp hr
  obtain ⟨e', he', hre'⟩ := mem_relations.mp hr'
  have hee : e = e' := by
    refine h.entity_ext he he' ?_
    rw [← h.relation_entity he hre, ← h.relation_entity he' hre', hid]
  subst hee
  obtain ⟨j, hj⟩ := List.getElem?_of_mem hre
  obtain ⟨j', hj'⟩ := List.getElem?_of_mem hre'
  have hjj : j = j' := by
    have h1 := h.numbered he hj
    rw [hid, h.numbered he hj'] at h1
    injection h1 with _ h2
    exact (Option.some.inj h2).symm
  subst hjj
  exact Option.some.inj (hj.symm.trans hj')

end Placed

-- ── One change to all relations ───────────────────────────────────────────────

/-- Changes that agree on the relations of a database are the same change of the database. -/
theorem mapRelations_congr {f g : Relation → Relation} (h : ∀ r ∈ db.relations, f r = g r) :
    db.mapRelations f = db.mapRelations g := by
  have hentities : db.entities.map (·.mapRelations f) = db.entities.map (·.mapRelations g) := by
    refine List.map_congr_left fun e he => ?_
    have hrelations : e.relations.map f = e.relations.map g :=
      List.map_congr_left fun r hr => h r (mem_relations.mpr ⟨e, he, hr⟩)
    show { e with relations := e.relations.map f } = { e with relations := e.relations.map g }
    rw [hrelations]
  show { db with entities := _ } = { db with entities := _ }
  rw [hentities]

/-- A change that does nothing to any relation does nothing to the database. -/
theorem mapRelations_eq_self {f : Relation → Relation} (h : ∀ r ∈ db.relations, f r = r) :
    db.mapRelations f = db := by
  rw [mapRelations_congr (g := id) h]
  have hid : (fun e : Entity => e.mapRelations id) = id := by
    funext e
    show { e with relations := e.relations.map id } = e
    rw [List.map_id]
  show { db with entities := db.entities.map fun e => e.mapRelations id } = db
  rw [hid, List.map_id]

theorem mapRelations_mapRelations (db : Database) (f g : Relation → Relation) :
    (db.mapRelations f).mapRelations g = db.mapRelations fun r => g (f r) := by
  simp [mapRelations, Entity.mapRelations, Function.comp_def]

theorem mem_entities_mapRelations {f : Relation → Relation} :
    e ∈ (db.mapRelations f).entities ↔ ∃ e' ∈ db.entities, e'.mapRelations f = e :=
  List.mem_map

theorem relations_mapRelations (db : Database) (f : Relation → Relation) :
    (db.mapRelations f).relations = db.relations.map f := by
  simp [relations, mapRelations, Entity.mapRelations, List.flatMap_map, List.map_flatMap]

/-- A change to relations can be made before or after an entity is looked up. -/
theorem entity?_mapRelations (db : Database) (f : Relation → Relation) (id : EntityId) :
    (db.mapRelations f).entity? id = (db.entity? id).map (·.mapRelations f) := by
  cases id with
  | none => rfl
  | some i => exact List.getElem?_map

/-- A run of changes on one relation, each of them made if it is for the relation's id. The relation
    is left alone until its id comes up, and is what it should become from then on. -/
theorem foldl_changes {α : Type} {items : List α} {id : α → RelationId}
    {change : α → Relation → Relation} {r r' : Relation} (hid : r'.id = r.id)
    (hchange : ∀ a ∈ items, id a = r.id → change a r = r' ∧ change a r' = r') :
    items.foldl (fun r a => if r.id = id a then change a r else r) r' = r' ∧
    ((∃ a ∈ items, id a = r.id) ∨ r' = r →
      items.foldl (fun r a => if r.id = id a then change a r else r) r = r') := by
  induction items with
  | nil =>
      refine ⟨rfl, fun h => ?_⟩
      rcases h with ⟨a, ha, -⟩ | hsame
      · exact nomatch ha
      · exact hsame.symm
  | cons a items ih =>
      obtain ⟨ihdone, ihopen⟩ := ih fun b hb => hchange b (List.mem_cons_of_mem a hb)
      rw [List.foldl_cons, List.foldl_cons, hid]
      by_cases ha : r.id = id a
      · obtain ⟨hfirst, hagain⟩ := hchange a List.mem_cons_self ha.symm
        rw [if_pos ha, if_pos ha, hfirst, hagain]
        exact ⟨ihdone, fun _ => ihdone⟩
      · rw [if_neg ha, if_neg ha]
        refine ⟨ihdone, fun h => ihopen ?_⟩
        rcases h with ⟨b, hb, hbr⟩ | hsame
        · rcases List.mem_cons.mp hb with rfl | hb
          · exact absurd hbr.symm ha
          · exact Or.inl ⟨b, hb, hbr⟩
        · exact Or.inr hsame

namespace Placed

/-- A change that keeps the ids of relations keeps everything in its place. -/
theorem mapRelations (h : db.Placed) {f : Relation → Relation} (hf : ∀ r, (f r).id = r.id) :
    (db.mapRelations f).Placed where
  entity_id := by
    intro i e he
    have hmap : (db.entities[i]?).map (·.mapRelations f) = some e := by
      rw [← List.getElem?_map]
      exact he
    obtain ⟨e', he', rfl⟩ := Option.map_eq_some_iff.mp hmap
    show e'.id = some i
    exact h.entity_id he'
  numbered := by
    intro e he j r hr
    obtain ⟨e', he', rfl⟩ := mem_entities_mapRelations.mp he
    have hmap : (e'.relations[j]?).map f = some r := by
      rw [← List.getElem?_map]
      exact hr
    obtain ⟨r', hr', rfl⟩ := Option.map_eq_some_iff.mp hmap
    rw [hf]
    exact h.numbered he' hr'

/-- In a list whose items carry a key of their place, changing a place is changing a key. -/
private theorem modify_eq_map {α κ : Type} [DecidableEq κ] {items : List α} (key : α → κ)
    (place : Nat → κ) (hplace : ∀ i j, place i = place j → i = j)
    (hkey : ∀ j a, items[j]? = some a → key a = place j) (i : Nat) (f : α → α) :
    items.modify i f = items.map fun a => if key a = place i then f a else a := by
  refine List.ext_getElem? fun j => ?_
  rw [List.getElem?_modify, List.getElem?_map]
  cases hj : items[j]? with
  | none => rfl
  | some a =>
      have ha := hkey j a hj
      by_cases hij : i = j
      · subst hij
        simp [ha]
      · have hne : key a ≠ place i := by
          intro h
          exact hij (hplace i j (h.symm.trans ha))
        simp [hij, hne]

/-- A relation whose id has another owner, or no place, is not among the entity's relations. -/
private theorem entity_mapRelations_eq_self (h : db.Placed) (he : e ∈ db.entities)
    {id : RelationId} (hid : id.entity ≠ e.id ∨ id.index = none) (change : Relation → Relation) :
    e.mapRelations (fun r => if r.id = id then change r else r) = e := by
  have hsame : e.relations.map (fun r => if r.id = id then change r else r) = e.relations := by
    refine (List.map_congr_left fun r hr => if_neg fun heq => ?_).trans (List.map_id _)
    obtain ⟨j, hj⟩ := List.getElem?_of_mem hr
    have hnum := h.numbered he hj
    rw [heq] at hnum
    rcases hid with howner | hindex
    · exact howner (congrArg RelationId.entity hnum)
    · rw [hnum] at hindex
      exact nomatch hindex
  show { e with relations := _ } = e
  rw [hsame]

/-- Changing the relation of an id is a change to all relations that leaves the others alone. -/
theorem modifyRelation_eq (h : db.Placed) (id : RelationId) (change : Relation → Relation) :
    db.modifyRelation id change = db.mapRelations fun r => if r.id = id then change r else r := by
  have hnone : (∀ e ∈ db.entities, id.entity ≠ e.id ∨ id.index = none) →
      db.mapRelations (fun r => if r.id = id then change r else r) = db := by
    intro hid
    have hsame : db.entities.map
        (·.mapRelations fun r => if r.id = id then change r else r) = db.entities :=
      (List.map_congr_left fun e he =>
        entity_mapRelations_eq_self h he (hid e he) change).trans (List.map_id _)
    show { db with entities := _ } = db
    rw [hsame]
  obtain ⟨owner, index⟩ := id
  cases owner with
  | none =>
      rw [hnone]
      · rfl
      · intro e he
        obtain ⟨i, hi⟩ := List.getElem?_of_mem he
        rw [h.entity_id hi]
        exact Or.inl fun heq => nomatch heq
  | some position =>
      cases index with
      | none =>
          rw [hnone]
          · rfl
          · exact fun _ _ => Or.inr rfl
      | some index =>
          have hentities : db.entities.modify position
              (fun e => { e with relations := e.relations.modify index change }) =
              db.entities.map (·.mapRelations fun r =>
                if r.id = ⟨some position, some index⟩ then change r else r) := by
            rw [modify_eq_map Entity.id some (fun _ _ => Option.some.inj) h.entity_id]
            refine List.map_congr_left fun e he => ?_
            by_cases hid : e.id = some position
            · rw [if_pos hid]
              have hrelations := modify_eq_map Relation.id (fun j => ⟨some position, some j⟩)
                (fun _ _ heq => Option.some.inj (congrArg RelationId.index heq))
                (fun j r hj => hid ▸ h.numbered he hj) index change
              rw [hrelations]
              rfl
            · rw [if_neg hid]
              exact (entity_mapRelations_eq_self h he (Or.inl (Ne.symm hid)) change).symm
          show { db with entities := _ } = { db with entities := _ }
          rw [hentities]

/-- Changes to relations one after the other are one change to every relation, namely the run of all
    changes for its id. -/
theorem foldl_modifyRelation_eq (h : db.Placed) {α : Type} (items : List α) (id : α → RelationId)
    {change : α → Relation → Relation} (hid : ∀ a r, (change a r).id = r.id) :
    items.foldl (fun acc a => acc.modifyRelation (id a) (change a)) db =
      db.mapRelations fun r =>
        items.foldl (fun r a => if r.id = id a then change a r else r) r := by
  induction items generalizing db with
  | nil => exact (mapRelations_eq_self fun _ _ => rfl).symm
  | cons a items ih =>
      rw [List.foldl_cons, h.modifyRelation_eq, ih, mapRelations_mapRelations]
      · rfl
      · refine h.mapRelations fun r => ?_
        split
        · exact hid a r
        · rfl

/-- Changes to relations one after the other, each given by an id. If no change touches an id and
    what is listed for an id is always the same change, which does no more when it is repeated, then
    all relations are changed at once. -/
theorem foldl_modifyRelation (h : db.Placed) {α : Type} {items : List α} (id : α → RelationId)
    (change : α → Relation → Relation) {f : Relation → Relation}
    (hid : ∀ a r, (change a r).id = r.id)
    (hlisted : ∀ r ∈ db.relations, (∃ a ∈ items, id a = r.id) ∨ f r = r)
    (hchange : ∀ r ∈ db.relations, ∀ a ∈ items, id a = r.id →
      change a r = f r ∧ change a (f r) = f r) :
    items.foldl (fun acc a => acc.modifyRelation (id a) (change a)) db = db.mapRelations f := by
  rw [h.foldl_modifyRelation_eq items id hid]
  refine mapRelations_congr fun r hr => ?_
  have hfid : (f r).id = r.id := by
    rcases hlisted r hr with ⟨a, ha, har⟩ | hsame
    · rw [← (hchange r hr a ha har).1, hid]
    · rw [hsame]
  exact (foldl_changes hfid (hchange r hr)).2 (hlisted r hr)

end Placed

-- ── Registration and change ───────────────────────────────────────────────────

/-- Numbering gives the relation at a place the id of that place, counted from the first one. -/
theorem getElem?_numberFrom (owner : EntityId) (start : Nat) (rs : List Relation) (j : Nat) :
    (numberFrom owner start rs)[j]? =
      (rs[j]?).map fun r => { r with id := ⟨owner, some (start + j)⟩ } := by
  induction rs generalizing start j with
  | nil => rfl
  | cons r rs ih =>
      cases j with
      | zero => rfl
      | succ j =>
          show (numberFrom owner (start + 1) rs)[j]? = _
          rw [ih, Nat.add_assoc, Nat.add_comm 1 j]
          rfl

/-- An entity that is put at a place is numbered there. -/
theorem numbered_placed (e : Entity) (position : Nat) : (placed e position).Numbered := by
  intro j r hr
  have hr' : (numberFrom (some position) 0 e.relations)[j]? = some r := hr
  rw [getElem?_numberFrom, Nat.zero_add] at hr'
  obtain ⟨r', -, rfl⟩ := Option.map_eq_some_iff.mp hr'
  rfl

theorem placed_named (name : String) : (named name).Placed where
  entity_id := fun _ _ h => nomatch h
  numbered := fun _ h => nomatch h

/-- Only the entities count for the placement of a database. -/
theorem Placed.of_entities_eq (h : db.Placed) {db' : Database} (heq : db'.entities = db.entities) :
    db'.Placed where
  entity_id := by
    rw [heq]
    exact h.entity_id
  numbered := by
    rw [heq]
    exact h.numbered

/-- An entity is registered if it has a name and its qualified name is not taken; it goes to the end
    and takes its place, and nothing stays finalized. -/
theorem addEntity_map_eq_ok {db' : Database} :
    (db.addEntity e).map Prod.fst = .ok db' ↔
      (e.name ≠ "" ∧ ∀ e' ∈ db.entities, e'.fullName ≠ (db.inherited e).fullName) ∧
      db' = { db with
        entities := db.entities ++ [placed (db.inherited e) db.entities.length]
        finalized := false } := by
  rw [addEntity]
  dsimp only
  have hname : e.name.isEmpty = true ↔ e.name = "" := String.isEmpty_iff
  have hfull : (db.byFullName? (db.inherited e).fullName).isSome = true ↔
      ∃ e' ∈ db.entities, e'.fullName = (db.inherited e).fullName := by
    simp [byFullName?]
  split
  · rename_i hempty
    exact iff_of_false (fun h => nomatch h) fun h => h.1.1 (hname.mp hempty)
  · rename_i hnonempty
    split
    · rename_i htaken
      obtain ⟨e', he', heq⟩ := hfull.mp htaken
      exact iff_of_false (fun h => nomatch h) fun h => h.1.2 e' he' heq
    · rename_i hfree
      constructor
      · intro h
        injection h with h
        exact ⟨⟨fun hempty => hnonempty (hname.mpr hempty),
          fun e' he' heq => hfree (hfull.mpr ⟨e', he', heq⟩)⟩, h.symm⟩
      · rintro ⟨-, rfl⟩
        rfl

/-- What registering an entity leaves: the entity in its place at the end, and no finalized flag. -/
theorem addEntity_eq_ok {db' : Database} {id : EntityId} (hok : db.addEntity e = .ok (db', id)) :
    db' = { db with
      entities := db.entities ++ [placed (db.inherited e) db.entities.length]
      finalized := false } :=
  (addEntity_map_eq_ok.mp (congrArg (Except.map Prod.fst) hok)).2

/-- A new entity is placed behind those that are there, and its relations are numbered under its
    place. -/
theorem Placed.addEntity (h : db.Placed) {db' : Database} {id : EntityId}
    (hok : db.addEntity e = .ok (db', id)) : db'.Placed := by
  rw [addEntity_eq_ok hok]
  constructor
  · intro i e' he'
    have happend := he'
    rw [List.getElem?_append] at happend
    split at happend
    · exact h.entity_id happend
    · rw [List.getElem?_singleton] at happend
      split at happend
      · injection happend with heq
        rw [← heq]
        show some db.entities.length = some i
        congr 1
        omega
      · exact nomatch happend
  · intro e' he'
    rcases List.mem_append.mp he' with hold | hnew
    · exact h.numbered hold
    · rw [List.mem_singleton.mp hnew]
      exact numbered_placed _ _

/-- What a change through an id comes to: no entity is there, the change refuses, or the entity in
    its place is changed. The finalized flag is gone in any case. -/
theorem updateEntity_cases (db : Database) (id : EntityId)
    (change : Entity → Except Violation Entity) :
    (db.entity? id = none ∧
      db.updateEntity id change = (db.unfinalized, .error (.missing .entity))) ∨
    (∃ e v, db.entity? id = some e ∧ change e = .error v ∧
      db.updateEntity id change = (db.unfinalized, .error (.error v.error))) ∨
    (∃ i e e', id = some i ∧ db.entities[i]? = some e ∧ change e = .ok e' ∧
      db.updateEntity id change =
        ({ db with entities := db.entities.set i e', finalized := false }, .ok ())) := by
  cases id with
  | none => exact Or.inl ⟨rfl, rfl⟩
  | some i =>
      cases he : db.entities[i]? with
      | none => exact Or.inl ⟨he, by simp [Database.updateEntity, unfinalized, he]⟩
      | some e =>
          refine Or.inr ?_
          cases hc : change e with
          | error v =>
              exact Or.inl ⟨e, v, he, hc, by simp [Database.updateEntity, unfinalized, he, hc]⟩
          | ok e' =>
              exact Or.inr ⟨i, e, e', rfl, he, hc, by
                simp [Database.updateEntity, unfinalized, he, hc]⟩

/-- A change through an id drops the flag, also if it fails. -/
theorem finalized_updateEntity (db : Database) (id : EntityId)
    (change : Entity → Except Violation Entity) :
    (db.updateEntity id change).1.finalized = false := by
  rcases updateEntity_cases db id change with
    ⟨-, heq⟩ | ⟨e, v, -, -, heq⟩ | ⟨i, e, e', -, -, -, heq⟩
  · rw [heq]
    rfl
  · rw [heq]
    rfl
  · rw [heq]

/-- Changing an entity keeps the placement if the change keeps its id and the numbering. -/
theorem Placed.updateEntity (h : db.Placed) {id : EntityId}
    {change : Entity → Except Violation Entity}
    (hchange : ∀ e e', change e = .ok e' → e.Numbered → e'.id = e.id ∧ e'.Numbered) :
    (db.updateEntity id change).1.Placed := by
  rcases updateEntity_cases db id change with
    ⟨-, heq⟩ | ⟨e, v, -, -, heq⟩ | ⟨i, e, e', -, he, hc, heq⟩
  · rw [heq]
    exact h.of_entities_eq rfl
  · rw [heq]
    exact h.of_entities_eq rfl
  · rw [heq]
    obtain ⟨hid, hnum⟩ := hchange e e' hc (h.numbered (List.mem_of_getElem? he))
    constructor
    · intro j e'' he''
      have hset := he''
      rw [List.getElem?_set] at hset
      split at hset
      · rename_i hij
        split at hset
        · injection hset with hset
          rw [← hset, hid, ← hij]
          exact h.entity_id he
        · exact nomatch hset
      · exact h.entity_id hset
    · intro e'' he''
      rcases List.mem_or_eq_of_mem_set he'' with hold | hnew
      · exact h.numbered hold
      · rw [hnew]
        exact hnum

end Database

namespace Entity

/-- Setting attributes leaves the id, the relations, the fields and the indices alone. -/
theorem foldl_assign (attributes : List EntityAttribute) (e : Entity) :
    (attributes.foldl assign e).id = e.id ∧ (attributes.foldl assign e).relations = e.relations ∧
      (attributes.foldl assign e).fields = e.fields ∧
      (attributes.foldl assign e).indices = e.indices := by
  induction attributes generalizing e with
  | nil => exact ⟨rfl, rfl, rfl, rfl⟩
  | cons a attributes ih =>
      obtain ⟨hid, hrelations, hfields, hindices⟩ := ih (e.assign a)
      rw [List.foldl_cons, hid, hrelations, hfields, hindices]
      cases a <;> exact ⟨rfl, rfl, rfl, rfl⟩

/-- A field that is added goes to the end; nothing else changes. -/
theorem addField_eq_ok {e e' : Entity} {f : Field} (h : e.addField f = .ok e') :
    e' = { e with fields := e.fields ++ [f] } := by
  rw [addField] at h
  split at h
  · exact nomatch h
  · split at h
    · exact nomatch h
    · injection h with h
      exact h.symm

/-- An index that is added goes to the end; nothing else changes. -/
theorem addIndex_eq_ok {e e' : Entity} {index : Index} (h : e.addIndex index = .ok e') :
    e' = { e with indices := e.indices ++ [index] } := by
  rw [addIndex] at h
  split at h
  · exact nomatch h
  · split at h
    · exact nomatch h
    · injection h with h
      exact h.symm

/-- A relation that is added gets the next number. -/
theorem Numbered.addRelation {e : Entity} (h : e.Numbered) (r : Relation) :
    (e.addRelation r).Numbered := by
  intro j r' hr'
  have happend : (e.relations ++ [{ r with id := e.nextRelationId }])[j]? = some r' := hr'
  rw [List.getElem?_append] at happend
  split at happend
  · exact h happend
  · rw [List.getElem?_singleton] at happend
    split at happend
    · injection happend with heq
      rw [← heq]
      have hj : e.relations.length = j := by omega
      rw [← hj]
      rfl
    · exact nomatch happend

/-- No change to an entity changes its id or spoils the numbering. -/
theorem Numbered.change {e e' : Entity} (h : e.Numbered) {c : EntityChange}
    (hc : e.change c = .ok e') : e'.id = e.id ∧ e'.Numbered := by
  cases c with
  | assign attributes =>
      injection hc with hc
      obtain ⟨hid, hrelations, -, -⟩ := foldl_assign attributes e
      rw [← hc]
      refine ⟨hid, fun j r hr => ?_⟩
      rw [hrelations] at hr
      rw [hid]
      exact h hr
  | addField f =>
      rw [addField_eq_ok hc]
      exact ⟨rfl, h⟩
  | addIndex index =>
      rw [addIndex_eq_ok hc]
      exact ⟨rfl, h⟩
  | addRelation r =>
      injection hc with hc
      rw [← hc]
      exact ⟨rfl, h.addRelation r⟩

end Entity

end SchemaDdl
