import SchemaDdl.Proofs.Acceptance

/-!
# Finalizations that fail

Finalizing can be stopped in two places. A relation that cannot be resolved stops it before anything
has happened. An entity that SQLite refuses stops it in the middle of the run over the entities, and
what was done up to there stays done. How far the run got does not matter for what can have changed:
every step of a normalization keeps the frame, so the frame holds wherever the run ends.

* **`Entity.Extended`**: an entity with unnamed indices behind the old ones. The steps of a
  normalization do nothing else to the list of indices (`Database.stepsKeep_extended`).
* **`Platform.normalizeEntities_reply`**: a run over declared local fields ends well or with a
  refusal.
* **`Database.Interrupted`**: what an interrupted finalization may leave of a database.
-/

namespace SchemaDdl

/-- Whether a step failed because some relation cannot be built. -/
def Failure.isBuild : Failure → Bool
  | .error e => e.isBuild
  | .missing _ => false

/-- An entity with more indices behind the old ones, all of them without a name. -/
def Entity.Extended (e e' : Entity) : Prop :=
  ∃ added, e'.indices = e.indices ++ added ∧ ∀ index ∈ added, index.name = none

/-- An entity as an interrupted finalization may leave it. Its relations are bound to what they
    resolve to, and are otherwise as they were; it may have given up its ids; indices without a name
    may stand behind the old ones. -/
structure Entity.Interrupted (db : Database) (e e' : Entity) : Prop where
  rest : { e' with idMethod := e.idMethod, relations := e.relations, indices := e.indices } = e
  relations : e'.relations = e.relations.map fun r =>
    { r with bound := (r.targetEntity? db).bind (·.id) }
  idMethod : e'.idMethod = e.idMethod ∨ e'.idMethod = some .none
  indices : e.Extended e'

/-- A database as an interrupted finalization may leave it. If it still counts as finalized then
    nothing has happened to it. -/
structure Database.Interrupted (db db' : Database) : Prop where
  rest : { db' with entities := db.entities, finalized := db.finalized } = db
  entities : List.Forall₂ (Entity.Interrupted db) db.entities db'.entities
  flag : db'.finalized = true → db' = db

-- ── Unnamed indices ───────────────────────────────────────────────────────────

namespace Entity.Extended

variable {e e' e'' : Entity}

theorem refl (e : Entity) : e.Extended e := ⟨[], (List.append_nil _).symm, fun _ h => nomatch h⟩

/-- Indices without a name that are added twice are added behind the old ones. -/
theorem trans (h : e.Extended e') (h' : e'.Extended e'') : e.Extended e'' := by
  obtain ⟨added, hadded, hunnamed⟩ := h
  obtain ⟨added', hadded', hunnamed'⟩ := h'
  refine ⟨added ++ added', by rw [hadded', hadded, List.append_assoc], fun index hindex => ?_⟩
  rcases List.mem_append.mp hindex with hfirst | hsecond
  · exact hunnamed index hfirst
  · exact hunnamed' index hsecond

/-- An index that a normalization adds has no name. -/
theorem addIndex {unique : Bool} {names : List String}
    (h : e.addIndex (.ofNames unique names) = .ok e') : e.Extended e' := by
  rw [addIndex_eq_ok h]
  refine ⟨[.ofNames unique names], rfl, fun index hindex => ?_⟩
  rw [List.mem_singleton.mp hindex]
  rfl

end Entity.Extended

namespace Database

variable {db d : Database} {p : Platform} {f : Failure}

/-- A change through an id relates every entity to the one in its place if it relates the entity
    that it changes, and the relation is reflexive. -/
theorem updateEntity_related {T : Entity → Entity → Prop} (hrefl : ∀ e, T e e) (db : Database)
    (id : EntityId) {change : Entity → Except Violation Entity}
    (hchange : ∀ e e', change e = .ok e' → T e e') :
    List.Forall₂ T db.entities (db.updateEntity id change).1.entities := by
  have hsame : List.Forall₂ T db.entities db.entities := List.forall₂_same.mpr fun e _ => hrefl e
  rcases updateEntity_cases db id change with
    ⟨-, heq⟩ | ⟨e, v, -, -, heq⟩ | ⟨i, e, e', -, he, hc, heq⟩
  · rw [heq]
    exact hsame
  · rw [heq]
    exact hsame
  · rw [heq]
    exact forall₂_set hrefl he (hchange e e' hc)

/-- The steps of a normalization add no named index and change none. -/
theorem stepsKeep_extended (db : Database) :
    StepsKeep fun db' => List.Forall₂ Entity.Extended db.entities db'.entities where
  ids := by
    intro db' id h
    refine forall₂_trans h (updateEntity_related Entity.Extended.refl db' id
      fun e e' hchange => ?_) fun _ _ _ => Entity.Extended.trans
    injection hchange with hchange
    rw [← hchange]
    exact .refl e
  index := fun db' id _ _ h =>
    forall₂_trans h
      (updateEntity_related Entity.Extended.refl db' id fun _ _ => Entity.Extended.addIndex)
      fun _ _ _ => Entity.Extended.trans

end Database

-- ── What stops a normalization ────────────────────────────────────────────────

namespace Platform

variable {p : Platform} {db : Database}

/-- A run over entities whose local fields are all declared is stopped by nothing but a refusal. -/
theorem normalizeEntities_reply (hall : ∀ e ∈ db.entities, e.LocalsDeclared) {ids : List Nat}
    (hids : ∀ i ∈ ids, i < db.entities.length) :
    (p.normalizeEntities (ids.map some) db).2 = .ok () ∨
    p.dialect = .sqlite ∧ ∃ e ∈ db.entities, ∃ r, e.sqliteRefusal? = some r ∧
      (p.normalizeEntities (ids.map some) db).2 = .error (.error r.error) := by
  induction ids generalizing db with
  | nil => exact Or.inl rfl
  | cons i ids ih =>
      have hi : i < db.entities.length := hids i List.mem_cons_self
      have he : db.entity? (some i) = some db.entities[i] := List.getElem?_eq_getElem hi
      have hmem : db.entities[i] ∈ db.entities := List.getElem_mem hi
      rw [List.map_cons, normalizeEntities]
      by_cases haccepted : p.dialect = .sqlite → db.entities[i].sqliteRefusal? = none
      · have hgrows := db.entities[i].normalizedIn_grows p db
        obtain ⟨flag, hrun⟩ := normalizeEntity_replaces he (hall _ hmem) haccepted
        rw [hrun]
        have hallNext := Database.localsDeclared_set hall he hgrows
        rcases @ih { db with
            entities := db.entities.set i (db.entities[i].normalizedIn p db)
            finalized := flag } hallNext
            (fun j hj => by
              rw [List.length_set]
              exact hids j (List.mem_cons_of_mem i hj)) with hok | ⟨hp, e, hemem, r, hr, hreply⟩
        · exact Or.inl hok
        · refine Or.inr ⟨hp, ?_⟩
          -- what an entity is refused for does not change while it is normalized
          rcases List.mem_or_eq_of_mem_set hemem with hold | rfl
          · exact ⟨e, hold, r, hr, hreply⟩
          · refine ⟨_, hmem, r, ?_, hreply⟩
            exact (congrArg Entity.sqliteRefusal? hgrows.outline :).symm.trans hr
      · obtain ⟨hp, hrefused⟩ := Classical.not_imp.mp haccepted
        obtain ⟨r, hr⟩ := Option.ne_none_iff_exists'.mp hrefused
        refine Or.inr ⟨hp, _, hmem, r, hr, ?_⟩
        rw [normalizeEntity, hp]
        dsimp only
        rw [Database.withEntity_of_some he, hr]
        rfl

end Platform

-- ── Finalizing ────────────────────────────────────────────────────────────────

namespace Database

variable {db d : Database} {p : Platform} {f : Failure}

/-- What a normalization of a bound database leaves is what an interrupted finalization may leave
    of the database from before. -/
theorem interrupted_of_normalize (hs : db.Sound) :
    db.Interrupted (p.normalize db.allBound).1 := by
  have hgrows := p.normalize_grows db.allBound
  have hextended := (stepsKeep_extended db.allBound).normalize p
    (List.forall₂_same.mpr fun e _ => .refl e)
  refine ⟨(congrArg (fun b : Database => { b with entities := db.entities }) hgrows.rest :), ?_, ?_⟩
  · have hboth := List.forall₂_map_left_iff.mp (forall₂_both hgrows.entities hextended)
    refine hboth.imp fun e e' h => ⟨?_, ?_, h.1.idMethod, h.2⟩
    · exact (congrArg (fun b : Entity => { b with relations := e.relations }) h.1.rest :)
    · exact h.1.relations
  · intro hflag
    have hsame := hgrows.flag hflag
    rw [hsame] at hflag ⊢
    exact (hs.resolved hflag).allBound_eq_self hs.placed

/-- A failed finalization is not half done. If a relation cannot be built, the database is the one
    from before. Any other failure is the refusal of an entity by SQLite, and then nothing was named
    and nothing was lost: relations are bound, ids given up and unnamed indices added at the end, as
    far as the run got. -/
theorem finalize_failed (h : db.Reachable) (hfail : db.finalize p = (d, .error f)) :
    (f.isBuild = true → d = db) ∧
    (f.isBuild = false → db.Interrupted d ∧ p.dialect = .sqlite ∧
      ∃ e ∈ db.entities, ∃ r, e.sqliteRefusal? = some r ∧ f = .error r.error) := by
  have hs : db.Sound := h.sound
  rw [finalize] at hfail
  rcases bindRelations_cases hs.placed with ⟨hresolvable, hbind⟩ | ⟨e, r, step, -, -, hbind⟩
  · rw [hbind] at hfail
    dsimp only at hfail
    have hinterrupted := interrupted_of_normalize hs (p := p)
    have hreply : (p.normalize db.allBound).2 = .ok () ∨ p.dialect = .sqlite ∧
        ∃ e ∈ db.allBound.entities, ∃ r, e.sqliteRefusal? = some r ∧
          (p.normalize db.allBound).2 = .error (.error r.error) :=
      Platform.normalizeEntities_reply hresolvable.localsDeclared fun i hi => List.mem_range.mp hi
    cases hrun : p.normalize db.allBound with
    | mk mid reply =>
        rw [hrun] at hfail hinterrupted hreply
        rcases hreply with rfl | ⟨hp, e, he, r, hr, rfl⟩
        · injection hfail with _ hreply
          cases hreply
        · injection hfail with hd hf
          injection hf with hf
          subst hd hf
          obtain ⟨e', he', rfl⟩ := mem_entities_mapRelations.mp he
          exact ⟨fun hbuild => absurd hbuild Bool.false_ne_true,
            fun _ => ⟨hinterrupted, hp, e', he', r, hr, rfl⟩⟩
  · rw [hbind] at hfail
    injection hfail with hd hf
    injection hf with hf
    subst hd hf
    exact ⟨fun _ => rfl, fun hbuild => absurd hbuild.symm Bool.false_ne_true⟩

/-- The community with one more entity, whose auto-incremented field is not its key. -/
def counting : Database :=
  (community.run (.addEntity ⟨"Visit", [
    .addField { Field.plain "day" .date with primaryKey := true },
    .addField { Field.plain "count" .integer with autoIncrement := true }]⟩)).1

/-- SQLite refuses the last entity of the counting community, when the others have been worked on
    already. The strayed community is stopped by a relation and stays as it is. -/
theorem finalize_failed_counting :
    (∃ d f, counting.Reachable ∧ counting.finalize ⟨.sqlite, false⟩ = (d, .error f) ∧
      f.isBuild = false ∧ d ≠ counting ∧ counting.Interrupted d) ∧
    ∃ d f, strayed.Reachable ∧ strayed.finalize ⟨.sqlite, false⟩ = (d, .error f) ∧
      f.isBuild = true ∧ d = strayed := by
  have hcounting : counting.Reachable := community_reachable.run _
  have hstrayed : strayed.Reachable := community_reachable.run _
  have hrefused : (match counting.finalize ⟨.sqlite, false⟩ with
      | (d, .error f) => decide (f.isBuild = false ∧ d ≠ counting)
      | (_, .ok _) => false) = true := by decide +kernel
  have hstopped : (match strayed.finalize ⟨.sqlite, false⟩ with
      | (_, .error f) => f.isBuild
      | (_, .ok _) => false) = true := by decide +kernel
  constructor
  · cases hrun : counting.finalize ⟨.sqlite, false⟩ with
    | mk d reply =>
        rw [hrun] at hrefused
        cases reply with
        | ok _ => exact nomatch hrefused
        | error f =>
            obtain ⟨hbuild, hchanged⟩ := of_decide_eq_true hrefused
            exact ⟨d, f, hcounting, rfl, hbuild, hchanged,
              ((finalize_failed hcounting hrun).2 hbuild).1⟩
  · cases hrun : strayed.finalize ⟨.sqlite, false⟩ with
    | mk d reply =>
        rw [hrun] at hstopped
        cases reply with
        | ok _ => exact nomatch hstopped
        | error f =>
            exact ⟨d, f, hstrayed, rfl, hstopped, (finalize_failed hstrayed hrun).1 hstopped⟩

end Database

end SchemaDdl
