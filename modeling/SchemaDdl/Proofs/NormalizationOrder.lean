import SchemaDdl.Proofs.Interruption

/-!
# The order of a normalization

A platform may be asked to normalize entities one by one, in any order and any number of times. What
it makes of an entity depends on the entity and on the outline of the database alone, so a run that
goes through comes to a function of the set of its ids: neither the order nor a repetition can be
seen in the entities. The finalized flag is not computed from the set. It is dropped by the first
step that changes something, and a run that leaves all entities as they are had nothing to do.

* **`Platform.accepted_of_normalizeEntities`**: a run that goes through meets entities that are
  there and not refused.
* **`Platform.eq_of_normalizeEntities`**: the flag says whether a run has changed an entity.
* **`Platform.normalizeEntities_of_sameIds`**: two runs over the same ids do the same.
-/

namespace SchemaDdl

/-- Ids that all lead somewhere are places. -/
theorem exists_places {ids : List EntityId} (h : ∀ id ∈ ids, id ≠ none) :
    ∃ places : List Nat, ids = places.map some := by
  induction ids with
  | nil => exact ⟨[], rfl⟩
  | cons id ids ih =>
      obtain ⟨i, rfl⟩ := Option.ne_none_iff_exists'.mp (h id List.mem_cons_self)
      obtain ⟨places, rfl⟩ := ih fun id' hid' => h id' (List.mem_cons_of_mem _ hid')
      exact ⟨i :: places, rfl⟩

namespace Platform

variable {p : Platform} {db d d' : Database} {ids ids' : List EntityId}

/-- What a run was asked to do and did was there from the start, and is not refused. -/
theorem accepted_of_normalizeEntities (h : p.normalizeEntities ids db = (d, .ok ())) :
    ∀ id ∈ ids, ∃ e, db.entity? id = some e ∧ (p.dialect = .sqlite → e.sqliteRefusal? = none) := by
  intro id hid
  have hgrows : db.Grows d := (p.normalizeEntities_grows ids db).of_eq h
  obtain ⟨e', he', hsettled⟩ := normalizeEntities_settles h id hid
  cases id with
  | none => exact nomatch he'
  | some i =>
      obtain ⟨e, he, hgrown⟩ := forall₂_getElem?_right hgrows.entities he'
      refine ⟨e, he, fun hp => ?_⟩
      exact (congrArg Entity.sqliteRefusal? hgrown.outline :).symm.trans (hsettled.accepted hp)

/-- A run that leaves all entities as they were does nothing at all: they were settled, so no step
    had anything to change. -/
theorem eq_of_normalizeEntities (h : p.normalizeEntities ids db = (d, .ok ()))
    (hsame : d.entities = db.entities) : d = db := by
  have hgrows : db.Grows d := (p.normalizeEntities_grows ids db).of_eq h
  have hsettled : ∀ id ∈ ids, ∃ e, db.entity? id = some e ∧ e.Settled p db := by
    intro id hid
    obtain ⟨e, he, hsettled⟩ := normalizeEntities_settles h id hid
    have hkept : Entity.Kept d e db e :=
      ⟨hgrows.outline.symm, rfl, Or.inl rfl, fun _ hu => hu, fun _ hi => hi⟩
    rw [Database.entity?, hsame] at he
    exact ⟨e, he, hkept.settled hsettled⟩
  exact (congrArg Prod.fst (h.symm.trans (normalizeEntities_of_settled hsettled)) :)

/-- After a run the flag says whether some entity is another one than before. -/
theorem finalized_of_normalizeEntities (h : p.normalizeEntities ids db = (d, .ok ())) :
    d.finalized = (db.finalized && decide (d.entities = db.entities)) := by
  by_cases hsame : d.entities = db.entities
  · rw [eq_of_normalizeEntities h hsame, decide_eq_true rfl, Bool.and_true]
  · have hgrows : db.Grows d := (p.normalizeEntities_grows ids db).of_eq h
    rw [decide_eq_false hsame, Bool.and_false]
    refine Bool.eq_false_iff.mpr fun hflag => hsame ?_
    rw [hgrows.flag hflag]

/-- Normalizing entities one by one, in whatever order and however often, does the same: where one
    list of ids goes through, every list with the same ids goes through and leaves the same
    database, down to the order of the indices and the finalized flag. -/
theorem normalizeEntities_of_sameIds (hl : ∀ e ∈ db.entities, e.LocalsDeclared)
    (hids : ∀ id, id ∈ ids ↔ id ∈ ids') (hok : p.normalizeEntities ids db = (d, .ok ())) :
    p.normalizeEntities ids' db = (d, .ok ()) := by
  have haccepted := accepted_of_normalizeEntities hok
  have hthere : ∀ id ∈ ids, id ≠ none := by
    rintro id hid rfl
    obtain ⟨e, he, -⟩ := haccepted none hid
    exact nomatch he
  obtain ⟨places', rfl⟩ := exists_places fun id hid => hthere id ((hids id).mpr hid)
  obtain ⟨places, rfl⟩ := exists_places hthere
  have hplaces : ∀ i, i ∈ places ↔ i ∈ places' := fun i => by simpa using hids (some i)
  have hfound : ∀ i ∈ places, ∃ e, db.entity? (some i) = some e ∧
      (p.dialect = .sqlite → e.sqliteRefusal? = none) :=
    fun i hi => haccepted (some i) (List.mem_map_of_mem hi)
  obtain ⟨flag, hrun⟩ := normalizeEntities_eq hl hfound
  obtain ⟨flag', hrun'⟩ := normalizeEntities_eq hl fun i hi => hfound i ((hplaces i).mpr hi)
  -- the entities are a function of the set of places, and the flag is one of the entities
  have hflag := finalized_of_normalizeEntities hrun
  have hflag' := finalized_of_normalizeEntities hrun'
  simp only [← hplaces] at hrun' hflag'
  rw [hrun', ← hok, hrun]
  dsimp only at hflag hflag'
  rw [hflag, hflag']

/-- The community with one more reference and without heavy indexing, finalized for a platform that
    asks for no indices over the local fields of relations. -/
private def sparseHistory : List Operation := Database.communityHistory ++ [
  .assign [.heavyIndexing false],
  .change (some 1) (.addRelation ((Relation.toTarget "User").addReference ⟨"user_id", "id"⟩)),
  .finalize ⟨.generic, false⟩]

/-- The state that `sparseHistory` leads to. -/
private def sparse : Database := (Database.named "community").runAll sparseHistory

/-- MySQL adds an index to each of the last two entities. Working on the entities backwards, and on
    some of them twice, adds the same ones and drops the flag as well. -/
theorem normalizeEntities_of_sameIds_sparse :
    ∃ db d, db.Reachable ∧ db.finalized = true ∧ d.finalized = false ∧
      db.entities.map (·.indices.length) = [2, 0, 0] ∧
      d.entities.map (·.indices.length) = [2, 1, 1] ∧
      normalizeEntities ⟨.mysql "InnoDB", false⟩ [some 0, some 1, some 2] db = (d, .ok ()) ∧
      normalizeEntities ⟨.mysql "InnoDB", false⟩ [some 2, some 0, some 2, some 1, some 0] db =
        (d, .ok ()) := by
  have hl : ∀ e ∈ sparse.entities, e.LocalsDeclared := by
    have hall : (sparse.entities.all fun e =>
        e.relations.all fun r => r.localFields.all e.hasField) = true := by decide +kernel
    intro e he r hr name hname
    exact List.all_eq_true.mp (List.all_eq_true.mp (List.all_eq_true.mp hall e he) r hr) name hname
  have hids : ∀ id, id ∈ [some 0, some 1, some 2] ↔
      id ∈ [some 2, some 0, some 2, some 1, some 0] := by
    intro id
    simp only [List.mem_cons, List.not_mem_nil]
    tauto
  have hok : normalizeEntities ⟨.mysql "InnoDB", false⟩ [some 0, some 1, some 2] sparse =
      ((normalizeEntities ⟨.mysql "InnoDB", false⟩ [some 0, some 1, some 2] sparse).1, .ok ()) :=
    Prod.ext rfl (by decide +kernel)
  exact ⟨sparse, (normalizeEntities ⟨.mysql "InnoDB", false⟩ [some 0, some 1, some 2] sparse).1,
    ⟨"community", sparseHistory, rfl⟩, by decide +kernel, by decide +kernel, by decide +kernel,
    by decide +kernel, hok, normalizeEntities_of_sameIds hl hids hok⟩

end Platform

end SchemaDdl
