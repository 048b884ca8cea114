import SchemaDdl.Proofs.Lists
import SchemaDdl.Proofs.Placement
import SchemaDdl.Proofs.Steps

/-!
# Growth

Normalization only adds. An entity may lose its id method and gain indices behind those it has;
everything else about it, its relations included, stays as it is. This holds whether or not the
normalization goes through. Whatever changes something drops the finalized flag.

* **`Entity.Grows`**, **`Database.Grows`**: the relation between a state and a later one.
* **`Platform.normalize_grows`**: a run of the normalization makes a database grow, because each of
  its steps does.
-/

namespace SchemaDdl

/-- A later state of an entity: with more indices at the end, and perhaps without id method. -/
structure Entity.Grows (e e' : Entity) : Prop where
  rest : { e' with idMethod := e.idMethod, indices := e.indices } = e
  idMethod : e'.idMethod = e.idMethod ∨ e'.idMethod = some .none
  indices : e.indices <+: e'.indices

/-- A later state of a database: its entities have grown. A state that is still finalized is the
    state from before. -/
structure Database.Grows (db db' : Database) : Prop where
  rest : { db' with entities := db.entities, finalized := db.finalized } = db
  entities : List.Forall₂ Entity.Grows db.entities db'.entities
  flag : db'.finalized = true → db' = db

namespace Entity

variable {e e' e'' : Entity}

namespace Grows

theorem refl (e : Entity) : e.Grows e := ⟨rfl, Or.inl rfl, List.prefix_rfl⟩

/-- Growing twice is growing: indices gather at the end, and ids that are given up stay so. -/
theorem trans (h : e.Grows e') (h' : e'.Grows e'') : e.Grows e'' where
  rest := by
    have hrest := h.rest
    rw [← h'.rest] at hrest
    exact hrest
  idMethod := by
    rcases h'.idMethod with hsame | hnone
    · rw [hsame]
      exact h.idMethod
    · exact Or.inr hnone
  indices := h.indices.trans h'.indices

theorem id (h : e.Grows e') : e'.id = e.id := (congrArg Entity.id h.rest :)

theorem fields (h : e.Grows e') : e'.fields = e.fields := (congrArg Entity.fields h.rest :)

theorem relations (h : e.Grows e') : e'.relations = e.relations :=
  (congrArg Entity.relations h.rest :)

/-- Relations and the id of their owner are what they were, so the numbers still fit. -/
theorem numbered (h : e.Grows e') (hnum : e.Numbered) : e'.Numbered := by
  intro j r hr
  rw [h.relations] at hr
  rw [h.id]
  exact hnum hr

end Grows

/-- Adding an index is growth. -/
theorem addIndex_grows {index : Index} (h : e.addIndex index = .ok e') : e.Grows e' := by
  rw [addIndex_eq_ok h]
  exact ⟨rfl, Or.inl rfl, List.prefix_append _ _⟩

end Entity

namespace Database

variable {db db' db'' : Database} {id : EntityId}

namespace Grows

theorem refl (db : Database) : db.Grows db :=
  ⟨rfl, List.forall₂_same.mpr fun e _ => .refl e, fun _ => rfl⟩

/-- A database that has grown twice has grown. If the flag is still set after that, nothing was done
    either time. -/
theorem trans (h : db.Grows db') (h' : db'.Grows db'') : db.Grows db'' where
  rest := by
    have hrest := h.rest
    rw [← h'.rest] at hrest
    exact hrest
  entities :=
    forall₂_trans h.entities h'.entities fun _ _ _ => Entity.Grows.trans
  flag := by
    intro hflag
    have hlast := h'.flag hflag
    rw [hlast] at hflag ⊢
    exact h.flag hflag

/-- An entity is still found under its id, grown. -/
theorem entity? (h : db.Grows db') {e : Entity} (he : db.entity? id = some e) :
    ∃ e', db'.entity? id = some e' ∧ e.Grows e' := by
  cases id with
  | none => exact nomatch he
  | some i => exact forall₂_getElem? h.entities he

/-- What is found under an id later has grown from what was found there. -/
theorem grown (h : db.Grows db') {e e' : Entity} (he : db.entity? id = some e)
    (he' : db'.entity? id = some e') : e.Grows e' := by
  obtain ⟨e'', he'', hgrown⟩ := h.entity? he
  rw [he'] at he''
  injection he'' with hsame
  rw [hsame]
  exact hgrown

/-- Every entity of the later state has grown from the one in its place. -/
theorem of_mem (h : db.Grows db') {e' : Entity} (he' : e' ∈ db'.entities) :
    ∃ e ∈ db.entities, e.Grows e' :=
  forall₂_mem_right h.entities he'

theorem entityIds (h : db.Grows db') : db'.entityIds = db.entityIds := by
  show (List.range db'.entities.length).map some = (List.range db.entities.length).map some
  rw [h.entities.length_eq]

/-- Growing moves no entity. -/
theorem placed (h : db.Grows db') (hp : db.Placed) : db'.Placed where
  entity_id := by
    intro i e' he'
    obtain ⟨e, he, hgrows⟩ := forall₂_getElem?_right h.entities he'
    rw [hgrows.id]
    exact hp.entity_id he
  numbered := by
    intro e' he'
    obtain ⟨e, he, hgrows⟩ := h.of_mem he'
    exact hgrows.numbered (hp.numbered he)

/-- No relation changes. -/
theorem relations (h : db.Grows db') : db'.relations = db.relations := by
  have hlists : ∀ l l' : List Entity, List.Forall₂ Entity.Grows l l' →
      l'.flatMap (·.relations) = l.flatMap (·.relations) := by
    intro l l' hl
    induction hl with
    | nil => rfl
    | cons hab _ ih => rw [List.flatMap_cons, List.flatMap_cons, hab.relations, ih]
  exact hlists _ _ h.entities

end Grows

-- ── Steps ─────────────────────────────────────────────────────────────────────

theorem unfinalized_grows (db : Database) : db.Grows db.unfinalized :=
  ⟨rfl, (Grows.refl db).entities, fun hflag => nomatch hflag⟩

/-- A change through an id is growth of the database if it is growth of the entity. -/
theorem updateEntity_grows (db : Database) (id : EntityId)
    {change : Entity → Except Violation Entity}
    (hchange : ∀ e e', change e = .ok e' → e.Grows e') :
    db.Grows (db.updateEntity id change).1 := by
  rcases updateEntity_cases db id change with
    ⟨-, heq⟩ | ⟨e, v, -, -, heq⟩ | ⟨i, e, e', -, he, hc, heq⟩
  · rw [heq]
    exact unfinalized_grows db
  · rw [heq]
    exact unfinalized_grows db
  · rw [heq]
    exact ⟨rfl, forall₂_set Entity.Grows.refl he (hchange e e' hc), fun hflag => nomatch hflag⟩

/-- What is left by a step that only lets a database grow has grown from it. -/
theorem Grows.of_eq {o : Outcome} {reply : Except Failure Unit} (h : db.Grows o.1)
    (heq : o = (db', reply)) : db.Grows db' := by
  rw [heq] at h
  exact h

/-- The steps of a normalization let a database grow. -/
theorem stepsKeep_grows (db : Database) : StepsKeep (db.Grows ·) where
  ids := by
    intro db' id h
    refine h.trans (updateEntity_grows db' id fun e e' hchange => ?_)
    injection hchange with hchange
    rw [← hchange]
    exact ⟨rfl, Or.inr rfl, List.prefix_rfl⟩
  index := fun db' id _ _ h =>
    h.trans (updateEntity_grows db' id fun _ _ => Entity.addIndex_grows)

theorem addIndices_grows (id : EntityId) (unique : Bool) (planned : List (List String))
    (db : Database) : db.Grows (addIndices id unique planned db).1 :=
  (stepsKeep_grows db).addIndices id unique planned (.refl db)

theorem ensureInverseIndices_grows (id : EntityId) (db : Database) :
    db.Grows (db.ensureInverseIndices id).1 :=
  (stepsKeep_grows db).ensureInverseIndices id (.refl db)

theorem ensureRelationIndices_grows (id : EntityId) (db : Database) :
    db.Grows (db.ensureRelationIndices id).1 :=
  (stepsKeep_grows db).ensureRelationIndices id (.refl db)

theorem ensureHeavyIndices_grows (id : EntityId) (db : Database) :
    db.Grows (db.ensureHeavyIndices id).1 :=
  (stepsKeep_grows db).ensureHeavyIndices id (.refl db)

theorem normalizeEntity_grows (id : EntityId) (db : Database) :
    db.Grows (db.normalizeEntity id).1 :=
  (stepsKeep_grows db).normalizeEntity id (.refl db)

/-- Every part of a normalization lets a database grow. -/
theorem normalizePart_grows (p : Platform) (id : EntityId) (part : NormalizationPart)
    (db : Database) : db.Grows (db.normalizePart p id part).1 :=
  (stepsKeep_grows db).normalizePart p id part (.refl db)

end Database

namespace Platform

theorem normalizeEntities_grows (p : Platform) (ids : List EntityId) (db : Database) :
    db.Grows (p.normalizeEntities ids db).1 :=
  (Database.stepsKeep_grows db).normalizeEntities p ids (.refl db)

/-- Whatever a platform does to a database, and however far it gets, the database only grows. -/
theorem normalize_grows (p : Platform) (db : Database) : db.Grows (p.normalize db).1 :=
  (Database.stepsKeep_grows db).normalize p (.refl db)

end Platform

end SchemaDdl
