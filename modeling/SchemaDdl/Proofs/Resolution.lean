import SchemaDdl.Proofs.Lists
import SchemaDdl.Proofs.Placement

/-!
# What names and paths stand for

The functions that resolve a relation answer with fields or with a failure. Here it is said without
failures what they look for, and that they find exactly this.

* **`Entity.PathTo`**: a path on an entity leads to a field, directly or through a relation of the
  entity.
* **`Relation.localFieldsIn_eq_ok`**, **`Relation.foreignFieldsIn_eq_ok`**: the fields of the two
  sides, name by name and path by path.
* **`Relation.verify_eq_ok`**: what a verified relation has.
-/

namespace SchemaDdl

/-- A path on an entity leads to a field: it is the field's name; or it names a relation of the
    entity behind whose foreign field the field stands. -/
inductive Entity.PathTo (t : Entity) (path : String) (f : Field) : Prop
  | direct (plain : Text.halves? '.' path = none) (found : t.field? path = some f)
  | chained {head tail : String} {c : Relation} {name : String}
      (dotted : Text.halves? '.' path = some (head, tail)) (relation : t.relation? head = some c)
      (mapped : c.localOf? tail = some name) (found : t.field? name = some f)

namespace Entity

variable {e : Entity}

theorem hasField_iff {name : String} : e.hasField name = true ↔ ∃ f ∈ e.fields, f.name = name := by
  simp [hasField, field?]

/-- A field that is found has the name that was looked for. -/
theorem name_of_field? {name : String} {f : Field} (h : e.field? name = some f) :
    f.name = name := by
  have hname := List.find?_some h
  exact eq_of_beq hname

theorem hasField_of_field? {name : String} {f : Field} (h : e.field? name = some f) :
    e.hasField name = true := by
  rw [hasField, h]
  rfl

/-- A field that is found is one of the entity. -/
theorem mem_of_field? {name : String} {f : Field} (h : e.field? name = some f) : f ∈ e.fields :=
  List.mem_of_find?_eq_some h

/-- Fields that are found under some names have these names. -/
theorem map_name_of_field? {names : List String} {fs : List Field}
    (h : List.Forall₂ (fun name f => e.field? name = some f) names fs) :
    fs.map (·.name) = names := by
  induction h with
  | nil => rfl
  | cons hf _ ih => rw [List.map_cons, ih, name_of_field? hf]

/-- The field that a path leads to is one of the entity. -/
theorem PathTo.mem {path : String} {f : Field} (h : e.PathTo path f) : f ∈ e.fields := by
  cases h with
  | direct _ found => exact mem_of_field? found
  | chained _ _ _ found => exact mem_of_field? found

theorem PathTo.hasField {path : String} {f : Field} (h : e.PathTo path f) :
    e.hasField f.name = true :=
  hasField_iff.mpr ⟨f, h.mem, rfl⟩

end Entity

namespace Relation

variable {r : Relation} {db : Database}

/-- Only entities of the database are targets. -/
theorem mem_of_targetEntity? {t : Entity} (h : r.targetEntity? db = some t) :
    t ∈ db.entities := by
  rw [targetEntity?] at h
  cases hb : r.bound with
  | some position =>
      rw [hb] at h
      exact Database.mem_of_entity? h
  | none =>
      rw [hb] at h
      rcases Option.or_eq_some_iff.mp h with hshort | ⟨-, hfull⟩
      · exact List.mem_of_find?_eq_some hshort
      · exact List.mem_of_find?_eq_some hfull

theorem targetIn_eq_ok {t : Entity} : r.targetIn db = .ok t ↔ r.targetEntity? db = some t := by
  rw [targetIn]
  cases r.targetEntity? db with
  | none => simp
  | some t' => simp

theorem ownerIn_eq_ok {e : Entity} : r.ownerIn db = .ok e ↔ r.owner? db = some e := by
  rw [ownerIn]
  cases r.owner? db with
  | none => simp
  | some e' => simp

/-- A local field is found under its name on the owner, or not at all. -/
theorem localFieldIn_eq_ok {owner : Entity} {name : String} {f : Field} :
    r.localFieldIn db owner name = .ok f ↔ owner.field? name = some f := by
  rw [localFieldIn]
  cases owner.field? name with
  | none => simp
  | some f' => simp

/-- The field that a path is resolved to is one that it leads to. -/
theorem pathTo_of_foreignFieldIn {t : Entity} {path : String} {f : Field}
    (h : r.foreignFieldIn db t path = .ok f) : t.PathTo path f := by
  rw [foreignFieldIn] at h
  cases hdot : Text.halves? '.' path with
  | none =>
      rw [hdot] at h
      dsimp only at h
      cases hf : t.field? path with
      | none =>
          rw [hf] at h
          exact nomatch h
      | some f' =>
          rw [hf] at h
          injection h with h
          exact .direct hdot (by rw [hf, h])
  | some halves =>
      obtain ⟨head, tail⟩ := halves
      rw [hdot] at h
      dsimp only at h
      cases hc : t.relation? head with
      | none =>
          rw [hc] at h
          exact nomatch h
      | some c =>
          rw [hc] at h
          dsimp only at h
          cases hf : chainedField? t c tail with
          | none =>
              rw [hf] at h
              exact nomatch h
          | some f' =>
              rw [hf] at h
              injection h with h
              obtain ⟨name, hname, hfound⟩ := Option.bind_eq_some_iff.mp hf
              exact .chained hdot hc hname (by rw [hfound, h])

/-- A path is resolved to the field that it leads to, and it leads to one field at most. -/
theorem foreignFieldIn_eq_ok {t : Entity} {path : String} {f : Field} :
    r.foreignFieldIn db t path = .ok f ↔ t.PathTo path f := by
  refine ⟨pathTo_of_foreignFieldIn, fun h => ?_⟩
  rw [foreignFieldIn]
  cases h with
  | direct plain found =>
      rw [plain]
      dsimp only
      rw [found]
  | chained dotted relation mapped found =>
      have hf : chainedField? t _ _ = some f := Option.bind_eq_some_iff.mpr ⟨_, mapped, found⟩
      rw [dotted]
      dsimp only
      rw [relation]
      dsimp only
      rw [hf]

/-- Fields of the owner's side are found only if there is an owner. -/
theorem owner?_of_localFieldsIn {fs : List Field} (h : r.localFieldsIn db = .ok fs) :
    ∃ owner, r.owner? db = some owner := by
  rw [localFieldsIn] at h
  cases ho : r.ownerIn db with
  | error e =>
      rw [ho] at h
      exact nomatch h
  | ok owner => exact ⟨owner, ownerIn_eq_ok.mp ho⟩

/-- The fields of the owner's side are its fields of these names. -/
theorem localFieldsIn_eq_ok {owner : Entity} (ho : r.owner? db = some owner) {fs : List Field} :
    r.localFieldsIn db = .ok fs ↔
      List.Forall₂ (fun name f => owner.field? name = some f) r.localFields fs := by
  rw [localFieldsIn, ownerIn_eq_ok.mpr ho]
  dsimp only
  rw [mapM_eq_ok]
  simp only [localFieldIn_eq_ok]

/-- Fields of the target's side are found only if there is a target. -/
theorem targetEntity?_of_foreignFieldsIn {fs : List Field} (h : r.foreignFieldsIn db = .ok fs) :
    ∃ t, r.targetEntity? db = some t := by
  rw [foreignFieldsIn] at h
  cases ht : r.targetIn db with
  | error e =>
      rw [ht] at h
      exact nomatch h
  | ok t => exact ⟨t, targetIn_eq_ok.mp ht⟩

/-- The fields of the target's side are those that the paths lead to. -/
theorem foreignFieldsIn_eq_ok {t : Entity} (ht : r.targetEntity? db = some t) {fs : List Field} :
    r.foreignFieldsIn db = .ok fs ↔ List.Forall₂ t.PathTo r.foreignFields fs := by
  rw [foreignFieldsIn, targetIn_eq_ok.mpr ht]
  dsimp only
  rw [mapM_eq_ok]
  simp only [foreignFieldIn_eq_ok]

/-- A relation that is verified has pairs, a target, and fields behind all names; verifying it gives
    the id of its target. -/
theorem verify_eq_ok {id : EntityId} (h : r.verify db = .ok id) :
    r.references ≠ [] ∧ (∃ t, r.targetEntity? db = some t ∧ id = t.id) ∧
      (∃ fs, r.localFieldsIn db = .ok fs) ∧ ∃ fs, r.foreignFieldsIn db = .ok fs := by
  rw [verify] at h
  split at h
  · exact nomatch h
  · rename_i hne
    refine ⟨fun hnil => hne (by rw [hnil]; rfl), ?_⟩
    cases ht : r.targetIn db with
    | error e =>
        rw [ht] at h
        exact nomatch h
    | ok t =>
        rw [ht] at h
        cases hl : r.localFieldsIn db with
        | error e =>
            rw [hl] at h
            exact nomatch h
        | ok ls =>
            rw [hl] at h
            cases hf : r.foreignFieldsIn db with
            | error e =>
                rw [hf] at h
                exact nomatch h
            | ok fs =>
                rw [hf] at h
                injection h with h
                exact ⟨⟨t, targetIn_eq_ok.mp ht, h.symm⟩, ⟨ls, rfl⟩, ⟨fs, rfl⟩⟩

/-- All names of the owner's side are fields of the owner, once fields are found. -/
theorem hasField_of_localFieldsIn {owner : Entity} (ho : r.owner? db = some owner)
    {fs : List Field} (h : r.localFieldsIn db = .ok fs) :
    ∀ name ∈ r.localFields, owner.hasField name = true := by
  intro name hname
  obtain ⟨f, -, hf⟩ := forall₂_mem_left ((localFieldsIn_eq_ok ho).mp h) hname
  exact Entity.hasField_of_field? hf

/-- All fields of the target's side are fields of the target. -/
theorem hasField_of_foreignFieldsIn {t : Entity} (ht : r.targetEntity? db = some t)
    {fs : List Field} (h : r.foreignFieldsIn db = .ok fs) :
    ∀ f ∈ fs, t.hasField f.name = true := by
  intro f hf
  obtain ⟨path, -, hpath⟩ := forall₂_mem_right ((foreignFieldsIn_eq_ok ht).mp h) hf
  exact hpath.hasField

/-- The id of its target tells where a relation leads. -/
theorem targetEntity?_eq_some_iff (h : db.Placed) {t : Entity} (ht : t ∈ db.entities) :
    r.targetEntity? db = some t ↔ (r.targetEntity? db).map (·.id) = some t.id := by
  constructor
  · intro htarget
    rw [htarget]
    rfl
  · intro hid
    obtain ⟨t', ht', hid⟩ := Option.map_eq_some_iff.mp hid
    rw [ht', h.entity_ext (mem_of_targetEntity? ht') ht hid]

end Relation

end SchemaDdl
