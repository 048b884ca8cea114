import SchemaDdl.Proofs.Acceptance

/-!
# Names that stay

Before a database is finalized, names are computed on every read, from the tables of the owner and
of the target, and so they follow every renaming. Finalizing stores them. From then on relations and
indices are values in their places that nothing changes: operations append to the lists that they
stand in, and another finalization binds a bound relation to the same entity and leaves a stored
name alone.

* **`Database.Extends`**: every relation and every index of an earlier state is in its place in a
  later one, as it was.
* **`Database.Extends.run`**: what a database with all names and targets is extended by goes on
  extending it, whatever is done and whether or not it goes through.
* **`Entity.Fixes`**: a finalized entity beside the one from before.
-/

namespace SchemaDdl

/-- The relations and indices of the first database stand in the second one as they are, and in the
    same places. -/
def Database.Extends (d db : Database) : Prop :=
  ∀ (i : Nat) (e : Entity), d.entities[i]? = some e → ∃ e', db.entities[i]? = some e' ∧
    e.relations <+: e'.relations ∧ e.indices <+: e'.indices

/-- A finalized entity has every relation of the entity from before in its place, bound to the
    target and under the name that could be read then; and so every index. -/
structure Entity.Fixes (db : Database) (e e' : Entity) : Prop where
  relations : ∀ (j : Nat) (r : Relation), e.relations[j]? = some r →
    ∃ r' t, e'.relations[j]? = some r' ∧ r'.storedName? = some (r.nameIn db) ∧
      r.targetEntity? db = some t ∧ r'.bound = t.id
  indices : ∀ (k : Nat) (index : Index), e.indices[k]? = some index →
    e'.indices[k]? = some { index with name := some (index.nameOn e.table) }

/-- A beginning of a list stays one if the list is changed in ways that leave its items alone. -/
theorem prefix_map_of_fixed {α : Type} {l l' : List α} {f : α → α} (h : l <+: l')
    (hf : ∀ a ∈ l, f a = a) : l <+: l'.map f := by
  obtain ⟨rest, rfl⟩ := h
  rw [List.map_append, (List.map_congr_left hf).trans (List.map_id _)]
  exact List.prefix_append _ _

/-- Items of a beginning stand in the same places in the whole. -/
theorem getElem?_of_beginning {α : Type} {l l' : List α} (h : l <+: l') {i : Nat} {a : α}
    (ha : l[i]? = some a) : l'[i]? = some a := by
  obtain ⟨rest, rfl⟩ := h
  rw [List.getElem?_append_left (List.getElem?_eq_some_iff.mp ha).1]
  exact ha

/-- A change to an entity leaves its relations and indices in their places. -/
theorem Entity.prefix_of_change {e e' : Entity} {c : EntityChange} (h : e.change c = .ok e') :
    e.relations <+: e'.relations ∧ e.indices <+: e'.indices := by
  cases c with
  | assign attributes =>
      injection h with h
      obtain ⟨-, hrelations, -, hindices⟩ := foldl_assign attributes e
      rw [← h, hrelations, hindices]
      exact ⟨List.prefix_rfl, List.prefix_rfl⟩
  | addField f =>
      rw [addField_eq_ok h]
      exact ⟨List.prefix_rfl, List.prefix_rfl⟩
  | addIndex index =>
      rw [addIndex_eq_ok h]
      exact ⟨List.prefix_rfl, List.prefix_append _ _⟩
  | addRelation r =>
      injection h with h
      rw [← h]
      exact ⟨List.prefix_append _ _, List.prefix_rfl⟩

namespace Database

variable {db db' d : Database} {p : Platform}

namespace Extends

theorem refl (d : Database) : d.Extends d :=
  fun _ e he => ⟨e, he, List.prefix_rfl, List.prefix_rfl⟩

/-- What extends an extension extends the first database. -/
theorem trans (h : d.Extends db) (h' : db.Extends db') : d.Extends db' := by
  intro i e he
  obtain ⟨e', he', hrelations, hindices⟩ := h i e he
  obtain ⟨e'', he'', hrelations', hindices'⟩ := h' i e' he'
  exact ⟨e'', he'', hrelations.trans hrelations', hindices.trans hindices'⟩

theorem entity? (h : d.Extends db) {id : EntityId} {e : Entity} (he : d.entity? id = some e) :
    ∃ e', db.entity? id = some e' := by
  cases id with
  | none => exact nomatch he
  | some i =>
      obtain ⟨e', he', -⟩ := h i e he
      exact ⟨e', he'⟩

/-- What begins with the same entities extends a database. -/
theorem of_entities (h : db.entities <+: db'.entities) : db.Extends db' :=
  fun _ e he => ⟨e, getElem?_of_beginning h he, List.prefix_rfl, List.prefix_rfl⟩

/-- Growing adds indices at the end and leaves relations alone. -/
theorem of_grows (h : db.Grows db') : db.Extends db' := by
  intro i e he
  obtain ⟨e', he', hgrows⟩ := forall₂_getElem? h.entities he
  exact ⟨e', he', ⟨[], by rw [List.append_nil, hgrows.relations]⟩, hgrows.indices⟩

/-- A change to an entity extends the database, whether or not it is accepted. -/
theorem updateEntity (db : Database) (id : EntityId) (c : EntityChange) :
    db.Extends (db.updateEntity id (·.change c)).1 := by
  rcases updateEntity_cases db id (·.change c) with
    ⟨-, heq⟩ | ⟨e, v, -, -, heq⟩ | ⟨i, e, e', -, he, hc, heq⟩
  · rw [heq]
    exact refl db
  · rw [heq]
    exact refl db
  · rw [heq]
    intro j e₀ he₀
    by_cases hij : i = j
    · subst hij
      rw [he] at he₀
      injection he₀ with he₀
      rw [← he₀]
      exact ⟨e', List.getElem?_set_self (List.getElem?_eq_some_iff.mp he).1,
        Entity.prefix_of_change hc⟩
    · refine ⟨e₀, ?_, List.prefix_rfl, List.prefix_rfl⟩
      show (db.entities.set i e')[j]? = some e₀
      rw [List.getElem?_set_ne hij]
      exact he₀

/-- So does registering another entity. -/
theorem register (db : Database) (draft : EntityDraft) : db.Extends (db.register draft).1 := by
  rcases register_cases db draft with ⟨f, heq⟩ | ⟨e, d, id, -, hadd, heq⟩
  · rw [heq]
    exact refl db
  · rw [heq, addEntity_eq_ok hadd]
    exact of_entities (List.prefix_append _ _)

/-- Binding again leaves relations alone that are bound to an entity. -/
theorem allBound (h : d.Extends db) (hd : d.Resolved) (hp : db.Placed) : d.Extends db.allBound := by
  intro i e he
  obtain ⟨e', he', hrelations, hindices⟩ := h i e he
  refine ⟨e'.mapRelations (·.boundIn db), ?_, ?_, hindices⟩
  · show (db.entities.map _)[i]? = _
    rw [List.getElem?_map, he']
    rfl
  · refine prefix_map_of_fixed hrelations fun r hr => ?_
    obtain ⟨-, t, ht⟩ := hd r (mem_relations.mpr ⟨e, List.mem_of_getElem? he, hr⟩)
    -- the entity that it is bound to is still there, whatever has become of it
    obtain ⟨t', ht'⟩ := h.entity? ht
    exact Relation.boundIn_eq_self hp ht'

/-- Fixing names again leaves the stored ones alone. -/
theorem allNamed (h : d.Extends db) (hd : d.Named) : d.Extends db.allNamed := by
  intro i e he
  obtain ⟨hnamed, hnamedIndices⟩ := hd e (List.mem_of_getElem? he)
  obtain ⟨e', he', hrelations, hindices⟩ := h i e he
  refine ⟨e'.namedIn db, ?_, ?_, ?_⟩
  · show (db.entities.map _)[i]? = _
    rw [List.getElem?_map, he']
    rfl
  · exact prefix_map_of_fixed hrelations fun r hr => Relation.namedIn_eq_self (hnamed r hr)
  · refine prefix_map_of_fixed hindices fun index hindex => ?_
    exact namedIndex_eq_self _ (hnamedIndices index hindex)

/-- A finalization, also one that fails on the way, leaves bound and named relations and named
    indices alone. -/
theorem finalize (h : d.Extends db) (hresolved : d.Resolved) (hnamed : d.Named) (hp : db.Placed)
    (p : Platform) : d.Extends (db.finalize p).1 := by
  rcases finalize_cases hp p with ⟨f, heq⟩ | ⟨-, mid, hgrows, ⟨f, -, heq⟩ | ⟨-, heq⟩⟩
  · rw [heq]
    exact h
  · rw [heq]
    exact (h.allBound hresolved hp).trans (of_grows hgrows)
  · rw [heq]
    exact ((h.allBound hresolved hp).trans (of_grows hgrows)).allNamed hnamed

/-- Whatever is done to a database, it goes on extending a database with all names and targets. -/
theorem run (h : d.Extends db) (hresolved : d.Resolved) (hnamed : d.Named) (hp : db.Placed)
    (op : Operation) : d.Extends (db.run op).1 := by
  cases op with
  | assign attributes =>
      refine h.trans (of_entities ⟨[], ?_⟩)
      rw [List.append_nil]
      exact (foldl_assign attributes db).1.symm
  | addEntity draft => exact h.trans (register db draft)
  | change id c => exact h.trans (updateEntity db id c)
  | finalize p => exact h.finalize hresolved hnamed hp p
  | normalize p => exact h.trans (of_grows (p.normalize_grows db))
  | normalizeEntity p id part => exact h.trans (of_grows (normalizePart_grows p id part db))

/-- And so it does after any history. -/
theorem runAll (h : d.Extends db) (hresolved : d.Resolved) (hnamed : d.Named) (hs : db.Sound)
    (history : List Operation) : d.Extends (db.runAll history) := by
  induction history generalizing db with
  | nil => exact h
  | cons op history ih => exact ih (h.run hresolved hnamed hs.placed op) (hs.run op)

end Extends

-- ── What finalizing fixes ─────────────────────────────────────────────────────

/-- Finalizing fixes every relation and every index in its place. -/
theorem fixes_of_finalize (hp : db.Placed) (hok : db.finalize p = (d, .ok ())) {i : Nat}
    {e : Entity} (he : db.entities[i]? = some e) :
    ∃ e', d.entities[i]? = some e' ∧ e.Fixes db e' := by
  obtain ⟨e', he', hfinal⟩ := forall₂_getElem? (finalize_entities hp hok) he
  refine ⟨e', he', ?_, ?_⟩
  · intro j r hr
    have hlisted : r ∈ db.relations :=
      mem_relations.mpr ⟨e, List.mem_of_getElem? he, List.mem_of_getElem? hr⟩
    obtain ⟨id, hv⟩ := (finalize_eq_ok hp hok).1 r hlisted
    obtain ⟨-, ⟨t, ht, -⟩, -⟩ := Relation.verify_eq_ok hv
    refine ⟨r.finalIn db, t, ?_, r.storedName?_namedIn db, ht, ?_⟩
    · rw [hfinal.relations, List.getElem?_map, hr]
      rfl
    · show (r.targetEntity? db).bind (·.id) = t.id
      rw [ht]
      rfl
  · intro k index hindex
    have hgrows := (e.mapRelations (·.boundIn db)).normalizedIn_grows p db.allBound
    have htable : ((e.mapRelations (·.boundIn db)).normalizedIn p db.allBound).table = e.table :=
      (congrArg Entity.table hgrows.rest :)
    have hkept := getElem?_of_beginning hgrows.indices hindex
    rw [finalize_eq_finalForm hp hok, entities_finalForm, List.getElem?_map, he] at he'
    injection he' with he'
    rw [← he']
    show (((e.mapRelations (·.boundIn db)).normalizedIn p db.allBound).indices.map
      (namedIndex ((e.mapRelations (·.boundIn db)).normalizedIn p db.allBound).table))[k]? = _
    rw [List.getElem?_map, hkept, htable]
    rfl

/-- When finalizing goes through, every relation is stored under the name that could be read just
    before and bound to its target, and every index under the name that it had on its table. In all
    that may happen later, every relation and every index stays in its place as it is. -/
theorem finalize_fixes (h : db.Reachable) (hok : db.finalize p = (d, .ok ())) :
    (∀ (i : Nat) (e : Entity), db.entities[i]? = some e →
      ∃ e', d.entities[i]? = some e' ∧ e.Fixes db e') ∧
    ∀ history, d.Extends (d.runAll history) := by
  have hp : db.Placed := h.sound.placed
  have hsound : d.Sound := (h.finalize hok).sound
  have hflag : d.finalized = true := by
    rw [finalize_eq_finalForm hp hok]
    rfl
  refine ⟨fun i e he => fixes_of_finalize hp hok he, fun history => ?_⟩
  exact (Extends.refl d).runAll (hsound.resolved hflag) (hsound.named hflag) hsound history

/-- The finalized community keeps all names when its first entity and its table are renamed, a
    relation is added, and it is finalized again for another platform. -/
theorem finalize_fixes_community :
    ∃ d, community.Reachable ∧ community.finalize ⟨.postgresql, false⟩ = (d, .ok ()) ∧
      d.Extends (d.runAll [
        .change (some 0) (.assign [.name "Person", .tableName (some "people")]),
        .change (some 1) (.addRelation
          ((Relation.toTarget "Person").addReference ⟨"user_id", "id"⟩)),
        .finalize ⟨.mysql "InnoDB", false⟩]) := by
  have hok : community.finalize ⟨.postgresql, false⟩ =
      ((community.finalize ⟨.postgresql, false⟩).1, .ok ()) := Prod.ext rfl (by decide +kernel)
  exact ⟨_, community_reachable, hok, (finalize_fixes community_reachable hok).2 _⟩

end Database

end SchemaDdl
