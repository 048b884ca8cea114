import SchemaDdl.Proofs.Reachability

/-!
# The invariant of a database

What holds of a database after any operations, in whatever order, whether they went through or
failed. Three parts come together. Ids tell the place of what carries them. Entities are
well-formed, because fields and indices get into an entity only past its rules. And the finalized
flag stands for a resolved and named graph.

* **`Field.Valid`**, **`Entity.WellFormed`**: the rules of a field, and of the fields and indices of
  an entity. No change to an entity breaks them (`Entity.WellFormed.change`).
* **`Database.WellFormed.run`**: no operation does.
* **`Database.Invariant`**: all of it together.
-/

namespace SchemaDdl

/-- A field that keeps its own rules. -/
structure Field.Valid (f : Field) : Prop where
  named : f.name ≠ ""
  noDefault : f.autoIncrement = true → f.default = none
  enumDefault : ∀ v, f.type = .enum → f.default = some (.value v) → v ∈ f.valueSet

/-- Fields keep their rules and have distinct names; indices are over fields, at least one. -/
structure Entity.WellFormed (e : Entity) : Prop where
  valid : ∀ f ∈ e.fields, f.Valid
  distinct : (e.fields.map (·.name)).Nodup
  indices : ∀ index ∈ e.indices, index.fields ≠ [] ∧
    ∀ name ∈ index.fieldNames, ∃ f ∈ e.fields, f.name = name

/-- All entities are well-formed. -/
def Database.WellFormed (db : Database) : Prop := ∀ e ∈ db.entities, e.WellFormed

/-- What holds of a database at any time. -/
structure Database.Invariant (db : Database) : Prop where
  entity_id : ∀ (i : Nat) (e : Entity), db.entities[i]? = some e → e.id = some i
  relation_id : ∀ (i : Nat) (e : Entity), db.entities[i]? = some e →
    ∀ (j : Nat) (r : Relation), e.relations[j]? = some r → r.id = ⟨some i, some j⟩
  entities : ∀ e ∈ db.entities, e.WellFormed
  pairs : ∀ e ∈ db.entities, ∀ r ∈ e.relations, r.localFields.length = r.foreignFields.length
  finalized : db.finalized = true → ∀ e ∈ db.entities,
    (∀ r ∈ e.relations, (∃ t, r.bound = some t ∧ t < db.entities.length) ∧ r.references ≠ [] ∧
      ∃ name, r.storedName? = some name) ∧
    ∀ index ∈ e.indices, ∃ name, index.name = some name

-- ── Fields ────────────────────────────────────────────────────────────────────

/-- A value has a position among the values of an `ENUM` if it is one of them. -/
theorem Field.isNone_enumPosition? {f : Field} {v : String} :
    (f.enumPosition? v).isNone = false ↔ v ∈ f.valueSet := by
  rw [enumPosition?, Option.isNone_eq_false_iff, List.isSome_idxOf?]

/-- Verification accepts exactly the fields that keep their rules. -/
theorem Field.verify_eq_ok {f : Field} {entity : String} : f.verify entity = .ok () ↔ f.Valid := by
  rw [verify]
  constructor
  · intro h
    split at h
    · exact nomatch h
    · rename_i hname
      split at h
      · exact nomatch h
      · rename_i hauto
        refine ⟨fun hnil => hname (by simp [hnil]), fun hincrement => ?_,
          fun v htype hdefault => ?_⟩
        · rw [hincrement, Bool.true_and, hasDefault, Option.not_isSome_iff_eq_none] at hauto
          exact hauto
        · rw [htype, hdefault] at h
          dsimp only at h
          split at h
          · exact nomatch h
          · rename_i hfound
            exact isNone_enumPosition?.mp (Bool.eq_false_iff.mpr hfound)
  · intro h
    rw [if_neg, if_neg]
    · split
      · rename_i v htype hdefault
        rw [isNone_enumPosition?.mpr (h.enumDefault v htype hdefault)]
        rfl
      · rfl
    · intro hboth
      rw [Bool.and_eq_true, hasDefault] at hboth
      rw [h.noDefault hboth.1] at hboth
      exact nomatch hboth.2
    · intro hempty
      exact h.named (String.isEmpty_iff.mp hempty)

-- ── Entities ──────────────────────────────────────────────────────────────────

namespace Entity

variable {e e' : Entity}

/-- Only the fields and what the indices are over count. -/
theorem WellFormed.congr (h : e.WellFormed) (hfields : e'.fields = e.fields)
    (hindices : e'.indices.map (·.fields) = e.indices.map (·.fields)) : e'.WellFormed where
  valid := by
    rw [hfields]
    exact h.valid
  distinct := by
    rw [hfields]
    exact h.distinct
  indices := by
    intro index hindex
    have hover : index.fields ∈ e.indices.map (·.fields) := by
      rw [← hindices]
      exact List.mem_map.mpr ⟨index, hindex, rfl⟩
    obtain ⟨index', hindex', hsame⟩ := List.mem_map.mp hover
    obtain ⟨hne, hdeclared⟩ := h.indices index' hindex'
    rw [hfields, Index.fieldNames, ← hsame]
    exact ⟨hne, hdeclared⟩

theorem wellFormed_named (name : String) : (named name).WellFormed :=
  ⟨fun _ hf => (nomatch hf), List.nodup_nil, fun _ hindex => (nomatch hindex)⟩

/-- A field is added only if it keeps its rules and has a new name. -/
theorem WellFormed.addField (h : e.WellFormed) {f : Field} (hok : e.addField f = .ok e') :
    e'.WellFormed := by
  rw [Entity.addField] at hok
  cases hverify : f.verify e.name with
  | error v =>
      rw [hverify] at hok
      cases hok
  | ok _ =>
      rw [hverify] at hok
      dsimp only at hok
      split at hok
      · cases hok
      · rename_i hnew
        injection hok with hok
        rw [← hok]
        refine ⟨?_, ?_, ?_⟩
        · intro f' hf'
          rcases List.mem_append.mp hf' with hold | hlast
          · exact h.valid f' hold
          · rw [List.mem_singleton.mp hlast]
            exact Field.verify_eq_ok.mp hverify
        · show ((e.fields ++ [f]).map (·.name)).Nodup
          rw [List.map_append]
          refine List.nodup_append.mpr ⟨h.distinct, List.pairwise_singleton _ _, ?_⟩
          intro name hname name' hname' heq
          obtain ⟨f', hf', rfl⟩ := List.mem_map.mp hname
          rw [List.mem_singleton.mp hname'] at heq
          exact hnew (hasField_iff.mpr ⟨f', hf', heq⟩)
        · intro index hindex
          obtain ⟨hne, hdeclared⟩ := h.indices index hindex
          refine ⟨hne, fun name hname => ?_⟩
          obtain ⟨f', hf', heq⟩ := hdeclared name hname
          exact ⟨f', List.mem_append_left _ hf', heq⟩

/-- What an index that is added is over. -/
theorem fields_of_addIndex {index : Index} (hok : e.addIndex index = .ok e') :
    index.fields ≠ [] ∧ ∀ name ∈ index.fieldNames, e.hasField name = true := by
  rw [Entity.addIndex] at hok
  split at hok
  · cases hok
  · rename_i hne
    split at hok
    · cases hok
    · rename_i hfound
      refine ⟨fun hnil => hne (by rw [hnil]; rfl), fun name hname => ?_⟩
      have hdeclared := List.find?_eq_none.mp hfound name hname
      simpa using hdeclared

/-- An index is added only over fields of the entity. -/
theorem WellFormed.addIndex (h : e.WellFormed) {index : Index} (hok : e.addIndex index = .ok e') :
    e'.WellFormed := by
  obtain ⟨hne, hdeclared⟩ := fields_of_addIndex hok
  rw [addIndex_eq_ok hok]
  refine ⟨h.valid, h.distinct, fun index' hindex' => ?_⟩
  rcases List.mem_append.mp hindex' with hold | hlast
  · exact h.indices index' hold
  · rw [List.mem_singleton.mp hlast]
    exact ⟨hne, fun name hname => hasField_iff.mp (hdeclared name hname)⟩

/-- No change breaks the rules of an entity. -/
theorem WellFormed.change (h : e.WellFormed) {c : EntityChange} (hok : e.change c = .ok e') :
    e'.WellFormed := by
  cases c with
  | assign attributes =>
      injection hok with hok
      obtain ⟨-, -, hfields, hindices⟩ := foldl_assign attributes e
      rw [← hok]
      exact h.congr hfields (by rw [hindices])
  | addField f => exact h.addField hok
  | addIndex index => exact h.addIndex hok
  | addRelation r =>
      injection hok with hok
      rw [← hok]
      exact h.congr rfl rfl

/-- An entity that is built from scratch is well-formed. -/
theorem wellFormed_of_build {d : EntityDraft} (hok : d.build = .ok e) : e.WellFormed :=
  foldlM_keeps (fun _ _ _ h hc => h.change hc) (wellFormed_named d.name) hok

end Entity

-- ── Operations ────────────────────────────────────────────────────────────────

namespace Database

variable {db db' : Database}

namespace WellFormed

/-- Being well-formed is a matter of the entities. -/
theorem of_entities_eq (h : db.WellFormed) (heq : db'.entities = db.entities) :
    db'.WellFormed := by
  rw [WellFormed, heq]
  exact h

/-- A change that keeps one entity well-formed keeps the database so, also where the change is
    refused. -/
theorem updateEntity (h : db.WellFormed) (id : EntityId)
    {change : Entity → Except Violation Entity}
    (hchange : ∀ e e', change e = .ok e' → e.WellFormed → e'.WellFormed) :
    (db.updateEntity id change).1.WellFormed := by
  rcases updateEntity_cases db id change with
    ⟨-, heq⟩ | ⟨e, v, -, -, heq⟩ | ⟨i, e, e', -, he, hc, heq⟩
  · rw [heq]
    exact h
  · rw [heq]
    exact h
  · rw [heq]
    intro e'' he''
    rcases List.mem_or_eq_of_mem_set he'' with hold | hnew
    · exact h e'' hold
    · rw [hnew]
      exact hchange e e' hc (h e (List.mem_of_getElem? he))

/-- The steps of a normalization keep entities well-formed. -/
theorem stepsKeep : StepsKeep WellFormed where
  ids := by
    intro db id h
    refine h.updateEntity id fun e e' hchange he => ?_
    injection hchange with hchange
    rw [← hchange]
    exact he.congr rfl rfl
  index := fun _ id _ _ h => h.updateEntity id fun _ _ hchange he => he.addIndex hchange

/-- Registering adds an entity that was built under the rules, or nothing. -/
theorem register (h : db.WellFormed) (draft : EntityDraft) : (db.register draft).1.WellFormed := by
  rcases register_cases db draft with ⟨f, heq⟩ | ⟨e, d, id, hbuild, hadd, heq⟩
  · rw [heq]
    exact h
  · rw [heq, addEntity_eq_ok hadd]
    intro e' he'
    rcases List.mem_append.mp he' with hold | hnew
    · exact h e' hold
    · rw [List.mem_singleton.mp hnew]
      exact (Entity.wellFormed_of_build hbuild).congr rfl rfl

/-- Binding and naming do not touch what counts; in between there is a normalization. -/
theorem finalize (h : db.WellFormed) (hp : db.Placed) (p : Platform) :
    (db.finalize p).1.WellFormed := by
  have hbound : db.allBound.WellFormed := by
    intro e he
    obtain ⟨e', he', rfl⟩ := mem_entities_mapRelations.mp he
    exact (h e' he').congr rfl rfl
  have hnormal : (p.normalize db.allBound).1.WellFormed := stepsKeep.normalize p hbound
  rcases finalize_cases hp p with ⟨f, heq⟩ | ⟨-, mid, -, ⟨f, hn, heq⟩ | ⟨hn, heq⟩⟩
  · rw [heq]
    exact h
  · rw [heq]
    rw [hn] at hnormal
    exact hnormal
  · rw [heq]
    rw [hn] at hnormal
    intro e he
    obtain ⟨e', he', rfl⟩ := List.mem_map.mp he
    refine (hnormal e' he').congr rfl ?_
    show (e'.indices.map (namedIndex e'.table)).map (·.fields) = _
    rw [List.map_map]
    rfl

/-- No operation breaks the rules of an entity. -/
theorem run (h : db.WellFormed) (hp : db.Placed) (op : Operation) : (db.run op).1.WellFormed := by
  cases op with
  | assign attributes => exact h.of_entities_eq (foldl_assign attributes db).1
  | addEntity draft => exact h.register draft
  | change id c => exact h.updateEntity id fun _ _ hc he => he.change hc
  | finalize p => exact h.finalize hp p
  | normalize p => exact stepsKeep.normalize p h
  | normalizeEntity p id part => exact stepsKeep.normalizePart p id part h

end WellFormed

/-- The entities of every reachable database are well-formed. -/
theorem Reachable.wellFormed (h : db.Reachable) : db.WellFormed := by
  have hboth : db.Sound ∧ db.WellFormed := by
    refine h.induct (motive := fun db => db.Sound ∧ db.WellFormed) ?_ ?_
    · exact fun name => ⟨sound_named name, fun _ he => nomatch he⟩
    · exact fun db op hdb => ⟨hdb.1.run op, hdb.2.run hdb.1.placed op⟩
  exact hboth.2

-- ── The invariant ─────────────────────────────────────────────────────────────

/-- A sound database of well-formed entities has all that is claimed of a database at any time. -/
theorem Sound.invariant (hs : db.Sound) (hw : db.WellFormed) : db.Invariant where
  entity_id := fun _ _ he => hs.placed.entity_id he
  relation_id := by
    intro i e he j r hr
    rw [hs.placed.numbered (List.mem_of_getElem? he) hr, hs.placed.entity_id he]
  entities := hw
  pairs := fun _ _ r _ => by simp [Relation.localFields, Relation.foreignFields]
  finalized := by
    intro hflag e he
    obtain ⟨hrelations, hindices⟩ := hs.named hflag e he
    refine ⟨fun r hr => ?_, fun index hindex => Option.isSome_iff_exists.mp (hindices index hindex)⟩
    obtain ⟨hne, t, ht⟩ := hs.resolved hflag r (mem_relations.mpr ⟨e, he, hr⟩)
    refine ⟨?_, hne, Option.isSome_iff_exists.mp (hrelations r hr)⟩
    cases hbound : r.bound with
    | none =>
        rw [hbound] at ht
        exact nomatch ht
    | some i =>
        rw [hbound] at ht
        exact ⟨i, rfl, (List.getElem?_eq_some_iff.mp ht).1⟩

/-- Whatever is done to a database that starts out empty, and whatever of it fails, ids tell the
    place, entities are well-formed, sides of relations are equally long, and a finalized database
    is bound and named. -/
theorem invariant_runAll (name : String) (history : List Operation) :
    ((named name).runAll history).Invariant := by
  have hreach : ((named name).runAll history).Reachable := ⟨name, history, rfl⟩
  exact hreach.sound.invariant hreach.wellFormed

end Database

end SchemaDdl
