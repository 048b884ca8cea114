import Mathlib.Data.List.Nodup
import SchemaDdl.Proofs.Reachability
import SchemaDdl.Proofs.Resolution
import SchemaDdl.Schema.Graph

/-!
# Incoming relations

Who points at an entity is searched through the whole database, by comparing ids. Since ids tell the
place, no relation is found twice, none is lost, and none is found from an entity that it does not
lead to. What lies behind a junction is read off the same search: for each way in, the ways out are
the other relations of the junction.

* **`Database.Placed.nodup_relations`**: no relation occurs twice in a database.
* **`Entity.mem_referrers`**: a relation points at an entity if it leads there.
* **`CrossRelation.Through`**: an association through a junction, by what comes before and after its
  way in.

The main result is that the incoming relations of all entities are the relations of the database
that lead somewhere, each of them once.
-/

namespace SchemaDdl

/-- An association goes through a junction: in by one of its relations, and out by all others in
    their order. -/
structure CrossRelation.Through (c : CrossRelation) (junction : Entity) : Prop where
  marked : junction.isCrossRef = true
  parts : ∃ before after, junction.relations = before ++ c.incoming :: after ∧
    c.outgoing = before ++ after
  once : c.incoming ∉ c.outgoing

namespace Database.Placed

variable {db : Database} {e : Entity}

-- ── Nothing twice ─────────────────────────────────────────────────────────────

theorem nodup_entities (h : db.Placed) : db.entities.Nodup := List.Nodup.of_map _ h.nodup_ids

/-- The relations of an entity have different ids, and so they are different. -/
theorem nodup_relationsOf (h : db.Placed) (he : e ∈ db.entities) : e.relations.Nodup := by
  refine List.nodup_iff_getElem?_ne_getElem?.mpr fun i j hij hj heq => ?_
  have hfound := List.getElem?_eq_getElem hj
  have hid := h.numbered he hfound
  rw [h.numbered he (heq.trans hfound)] at hid
  injection hid with _ hindex
  exact absurd (Option.some.inj hindex) (Nat.ne_of_lt hij)

/-- Lists made for every entity are apart, if each relation in them tells for which entity. -/
theorem nodup_flatMap (h : db.Placed) {f : Entity → List Relation}
    (hnodup : ∀ e ∈ db.entities, (f e).Nodup)
    (hapart : ∀ e ∈ db.entities, ∀ e' ∈ db.entities, ∀ r ∈ f e, r ∈ f e' → e = e') :
    (db.entities.flatMap f).Nodup := by
  refine List.nodup_flatMap.mpr ⟨hnodup, ?_⟩
  refine h.nodup_entities.pairwise_of_forall_ne fun e he e' he' hne => ?_
  exact fun r hr hr' => hne (hapart e he e' he' r hr hr')

/-- No relation of a placed database occurs twice. -/
theorem nodup_relations (h : db.Placed) : db.relations.Nodup := by
  refine h.nodup_flatMap (fun e he => h.nodup_relationsOf he) ?_
  intro e he e' he' r hr hr'
  refine h.entity_ext he he' ?_
  rw [← h.relation_entity he hr, h.relation_entity he' hr']

end Database.Placed

namespace Entity

variable {db : Database} {e : Entity} {r : Relation}

-- ── Incoming relations ────────────────────────────────────────────────────────

/-- The relations that point at an entity are those that lead there. -/
theorem mem_referrers (h : db.Placed) (he : e ∈ db.entities) :
    r ∈ e.referrers db ↔ r ∈ db.relations ∧ r.targetEntity? db = some e := by
  rw [referrers, List.mem_filter, beq_iff_eq, Relation.targetEntity?_eq_some_iff h he]

/-- Together, the lists of all entities are the relations that lead somewhere. -/
theorem perm_flatMap_referrers (h : db.Placed) :
    (db.entities.flatMap (·.referrers db)).Perm
      (db.relations.filter fun r => (r.targetEntity? db).isSome) := by
  have hnodup : (db.entities.flatMap (·.referrers db)).Nodup := by
    refine h.nodup_flatMap (fun e _ => h.nodup_relations.filter _) ?_
    intro e he e' he' r hr hr'
    have hsame := ((mem_referrers h he).mp hr).2.symm.trans ((mem_referrers h he').mp hr').2
    exact Option.some.inj hsame
  refine (List.perm_ext_iff_of_nodup hnodup (h.nodup_relations.filter _)).mpr fun r => ?_
  rw [List.mem_flatMap, List.mem_filter]
  constructor
  · rintro ⟨e, he, hr⟩
    obtain ⟨hlisted, htarget⟩ := (mem_referrers h he).mp hr
    exact ⟨hlisted, Option.isSome_iff_exists.mpr ⟨e, htarget⟩⟩
  · rintro ⟨hlisted, hsome⟩
    obtain ⟨e, htarget⟩ := Option.isSome_iff_exists.mp hsome
    have he := Relation.mem_of_targetEntity? htarget
    exact ⟨e, he, (mem_referrers h he).mpr ⟨hlisted, htarget⟩⟩

-- ── Junctions ─────────────────────────────────────────────────────────────────

/-- There is one association for each incoming relation of a junction. -/
theorem crossRelations_eq (e : Entity) (db : Database) :
    e.crossRelations db = ((e.referrers db).filter fun r => (r.owner? db).any (·.isCrossRef)).map
      fun r => ⟨r, r.siblings db⟩ := by
  rw [crossRelations, ← List.filterMap_eq_map', List.filterMap_filter]
  refine congrArg (List.filterMap · (e.referrers db)) (funext fun r => ?_)
  cases r.owner? db with
  | none => rfl
  | some junction => rfl

/-- The other relations of an owner are what stands before and behind a relation in its list. -/
theorem siblings_eq (h : db.Placed) (he : e ∈ db.entities) (hr : r ∈ e.relations) :
    r ∉ r.siblings db ∧ ∃ before after, e.relations = before ++ r :: after ∧
      r.siblings db = before ++ after := by
  obtain ⟨before, after, hsplit⟩ := List.append_of_mem hr
  have hnodup := h.nodup_relationsOf he
  rw [hsplit, List.nodup_middle, List.nodup_cons] at hnodup
  have hother : ∀ c ∈ before ++ after, (c.id != r.id) = true := by
    intro c hc
    rw [bne_iff_ne]
    intro hid
    have hlisted : c ∈ e.relations := by
      rw [hsplit, List.mem_append, List.mem_cons]
      exact (List.mem_append.mp hc).imp_right Or.inr
    have hsame := h.relation_ext (Database.mem_relations.mpr ⟨e, he, hlisted⟩)
      (Database.mem_relations.mpr ⟨e, he, hr⟩) hid
    exact hnodup.1 (hsame ▸ hc)
  have hsiblings : r.siblings db = before ++ after := by
    rw [Relation.siblings, h.owner?_eq he hr]
    show e.relations.filter (·.id != r.id) = _
    rw [hsplit, List.filter_append, List.filter_cons_of_neg (by simp), ← List.filter_append]
    exact List.filter_eq_self.mpr hother
  rw [hsiblings]
  exact ⟨hnodup.1, before, after, hsplit, rfl⟩

end Entity

namespace Database

variable {db : Database}

/-- The incoming relations of all entities, one list behind the other, are the relations of the
    database that lead somewhere, perhaps in another order, and none of them occurs twice. In the
    list of an entity there are exactly those that lead to it, in order of declaration. An entity
    has one association for each incoming relation whose owner is a junction, and it goes out by all
    other relations of the junction. -/
theorem referrers_partition (h : db.Reachable) :
    (db.entities.flatMap (·.referrers db)).Perm
      (db.relations.filter fun r => (r.targetEntity? db).isSome) ∧
    db.relations.Nodup ∧
    ∀ e ∈ db.entities,
      (e.referrers db).Sublist db.relations ∧
      (∀ r, r ∈ e.referrers db ↔ r ∈ db.relations ∧ r.targetEntity? db = some e) ∧
      (e.crossRelations db).map (·.incoming) =
        (e.referrers db).filter (fun r => (r.owner? db).any (·.isCrossRef)) ∧
      ∀ c ∈ e.crossRelations db, ∃ junction, c.incoming.owner? db = some junction ∧
        c.Through junction := by
  have hp : db.Placed := h.sound.placed
  refine ⟨Entity.perm_flatMap_referrers hp, hp.nodup_relations, fun e he => ?_⟩
  refine ⟨List.filter_sublist, fun r => Entity.mem_referrers hp he, ?_, fun c hc => ?_⟩
  · rw [Entity.crossRelations_eq, List.map_map]
    exact List.map_id _
  · rw [Entity.crossRelations_eq, List.mem_map] at hc
    obtain ⟨r, hr, rfl⟩ := hc
    obtain ⟨hreferrer, hjunction⟩ := List.mem_filter.mp hr
    obtain ⟨junction, hmem, hlisted⟩ :=
      mem_relations.mp ((Entity.mem_referrers hp he).mp hreferrer).1
    have howner := hp.owner?_eq hmem hlisted
    rw [howner] at hjunction
    obtain ⟨honce, hparts⟩ := Entity.siblings_eq hp hmem hlisted
    exact ⟨junction, howner, ⟨hjunction, hparts, honce⟩⟩

-- ── Friends ───────────────────────────────────────────────────────────────────

/-- A relation of one pair. -/
private def link (target localField : String) : EntityChange :=
  .addRelation ((Relation.toTarget target).addReference ⟨localField, "id"⟩)

/-- Users with a relation to themselves, and a junction with two relations to users. After
    finalizing, the junction gets a relation that leads nowhere. -/
def friendsHistory : List Operation := [
  .addEntity ⟨"User", [
    .addField { Field.plain "id" .integer with primaryKey := true },
    .addField (.plain "inviter" .integer), link "User" "inviter"]⟩,
  .addEntity ⟨"Friendship", [
    .assign [.isCrossRef true], .addField (.plain "who" .integer),
    .addField (.plain "friend" .integer), link "User" "who", link "User" "friend"]⟩,
  .finalize ⟨.generic, false⟩,
  .change (some 1) (link "Group" "who")]

/-- The state that `friendsHistory` leads to. -/
def friends : Database := (named "friends").runAll friendsHistory

/-- Of the four relations among friends three lead to users. Two of them are ways into the junction,
    and each of these has two ways out. -/
theorem referrers_partition_friends :
    ∃ user ∈ friends.entities, friends.Reachable ∧ friends.relations.length = 4 ∧
      friends.relations.Nodup ∧
      (friends.entities.flatMap (·.referrers friends)).Perm
        (friends.relations.filter fun r => (r.targetEntity? friends).isSome) ∧
      (user.referrers friends).length = 3 ∧
      (user.crossRelations friends).map (·.outgoing.length) = [2, 2] ∧
      ∀ c ∈ user.crossRelations friends, ∃ junction,
        c.incoming.owner? friends = some junction ∧ c.Through junction := by
  have hreach : friends.Reachable := ⟨"friends", friendsHistory, rfl⟩
  obtain ⟨hperm, hnodup, hentities⟩ := referrers_partition hreach
  obtain ⟨user, huser, hreferrers, houtgoing⟩ : ∃ user ∈ friends.entities,
      (user.referrers friends).length = 3 ∧
      (user.crossRelations friends).map (·.outgoing.length) = [2, 2] := by decide +kernel
  obtain ⟨-, -, -, hthrough⟩ := hentities user huser
  exact ⟨user, huser, hreach, by decide +kernel, hnodup, hperm, hreferrers, houtgoing, hthrough⟩

end Database

end SchemaDdl
