import SchemaDdl.Document.Load
import SchemaDdl.Proofs.Lists
import SchemaDdl.Proofs.Reachability

/-!
# Loaded databases

Loading is a chain of steps each of which may fail. A chain that goes through does nothing but what
can be done from outside: it sets attributes, adds fields, indices and relations to entities that
are being built, and registers them one after another. A document is one way of writing a history,
and what holds of every reachable database holds of a loaded one.

* **`Entity.Buildable`**: the entities that drafts describe. What is read from the object of an
  entity is one of them (`Document.buildable_of_entityOf`).
* **`Document.reachable_of_load`**: every loaded database is reachable.
-/

namespace SchemaDdl

namespace Entity

variable {e e' : Entity}

/-- Whether an entity is what some draft describes. -/
def Buildable (e : Entity) : Prop :=
  ∃ draft : EntityDraft, draft.build = .ok e

/-- A change to what a draft describes goes behind the changes of the draft. -/
theorem Buildable.change (h : e.Buildable) {c : EntityChange} (hc : e.change c = .ok e') :
    e'.Buildable := by
  obtain ⟨draft, hdraft⟩ := h
  refine ⟨⟨draft.name, draft.changes ++ [c]⟩, ?_⟩
  rw [EntityDraft.build] at hdraft ⊢
  rw [List.foldlM_append, hdraft]
  show [c].foldlM Entity.change e = .ok e'
  rw [List.foldlM_cons, hc]
  rfl

end Entity

namespace Document

variable {n : Node}

/-- Saying where a rule was broken changes nothing about what is accepted. -/
theorem atNode_eq_ok {α : Type} {message : String} {result : Except Violation α} {a : α} :
    atNode n message result = .ok a ↔ result = .ok a := by
  cases result with
  | error v => simp [atNode]
  | ok a' => simp [atNode]

/-- Only the keys of the fields tell a unique index from others. -/
theorem indexOf_eq (unique : Bool) (n : Node) : indexOf unique n = (do
    let children ← n.children (if unique then "unique-fields" else "index-fields")
      (if unique then "unique-field" else "index-field")
    let fields ← children.mapM indexFieldOf
    let name ← n.scalar? "name"
    let vendor ← vendorsOf n
    .ok { name, fields, unique, vendor }) := by
  cases unique with
  | false => rfl
  | true => rfl

-- ── Entities ──────────────────────────────────────────────────────────────────

section Entities

variable {e e' : Entity}

/-- The attributes of an entity are set all at once. -/
theorem buildable_of_headOf (h : headOf n = .ok e) : e.Buildable := by
  simp only [headOf, bind_eq_ok] at h
  obtain ⟨name, -, tableName, -, schema, -, namespaceName, -, skipSql, -, readOnly, -,
    isAbstract, -, isCrossRef, -, description, -, identifierQuoting, -, heavyIndexing, -, vendor, -,
    idMethod, -, h⟩ := h
  injection h with h
  rw [← h]
  exact ⟨⟨Text.studly name, [.assign [.tableName tableName, .schema schema,
    .namespaceName namespaceName, .skipSql skipSql, .readOnly readOnly, .isAbstract isAbstract,
    .isCrossRef isCrossRef, .description description, .identifierQuoting identifierQuoting,
    .heavyIndexing heavyIndexing, .vendor vendor, .idMethod idMethod]]⟩, rfl⟩

theorem buildable_of_withField (he : e.Buildable) (h : withField e n = .ok e') :
    e'.Buildable := by
  simp only [withField, bind_eq_ok, atNode_eq_ok] at h
  obtain ⟨f, -, hadd⟩ := h
  exact he.change (c := .addField f) hadd

theorem buildable_of_withIndex {unique : Bool} (he : e.Buildable)
    (h : withIndex unique e n = .ok e') : e'.Buildable := by
  simp only [withIndex, bind_eq_ok, atNode_eq_ok] at h
  obtain ⟨index, -, hadd⟩ := h
  exact he.change (c := .addIndex index) hadd

theorem buildable_of_withRelation (he : e.Buildable) (h : withRelation e n = .ok e') :
    e'.Buildable := by
  simp only [withRelation, bind_eq_ok] at h
  obtain ⟨r, -, h⟩ := h
  injection h with h
  rw [← h]
  exact he.change (c := .addRelation r) rfl

/-- What is read from the object of an entity is what some draft describes. -/
theorem buildable_of_entityOf (h : entityOf n = .ok e) : e.Buildable := by
  simp only [entityOf, bind_eq_ok] at h
  obtain ⟨head, hhead, fieldNodes, -, h⟩ := h
  split at h
  · cases h
  · simp only [bind_eq_ok] at h
    obtain ⟨e₁, h₁, indexNodes, -, uniqueNodes, -, e₂, h₂, e₃, h₃, relationNodes, -, h₄⟩ := h
    have hfields : e₁.Buildable :=
      foldlM_keeps (fun _ _ _ => buildable_of_withField) (buildable_of_headOf hhead) h₁
    have hplain : e₂.Buildable := foldlM_keeps (fun _ _ _ => buildable_of_withIndex) hfields h₂
    have hunique : e₃.Buildable := foldlM_keeps (fun _ _ _ => buildable_of_withIndex) hplain h₃
    exact foldlM_keeps (fun _ _ _ => buildable_of_withRelation) hunique h₄

end Entities

-- ── Databases ─────────────────────────────────────────────────────────────────

section Databases

variable {db db' : Database}

/-- The attributes of a database are set on an empty one. -/
theorem reachable_of_databaseHeadOf (h : databaseHeadOf n = .ok db) : db.Reachable := by
  simp only [databaseHeadOf, bind_eq_ok] at h
  obtain ⟨name, -, schema, -, namespaceName, -, quoting, -, heavy, -, vendor, -, method, -, h⟩ := h
  injection h with h
  rw [← h]
  exact ⟨name, [.assign [.schema schema, .namespaceName namespaceName, .identifierQuoting quoting,
    .heavyIndexing heavy, .vendor vendor, .defaultIdMethod (method.getD .native)]], rfl⟩

/-- Reading an entity and registering it is one operation. -/
theorem reachable_of_withEntity (hdb : db.Reachable) (h : withEntity db n = .ok db') :
    db'.Reachable := by
  simp only [withEntity, bind_eq_ok, atNode_eq_ok] at h
  obtain ⟨e, he, ⟨added, id⟩, hadd, h⟩ := h
  injection h with h
  obtain ⟨draft, hdraft⟩ := buildable_of_entityOf he
  have hrun := hdb.run (.addEntity draft)
  rw [Database.run, Database.register, hdraft] at hrun
  dsimp only at hrun
  rw [hadd] at hrun
  rw [← h]
  exact hrun

/-- Every database that is loaded from a document is reachable: some history of operations leads to
    it from an empty database. -/
theorem reachable_of_load {v : Json} (h : load v = .ok db) : db.Reachable := by
  simp only [load, databaseOf, bind_eq_ok] at h
  obtain ⟨n, -, head, hhead, nodes, -, h⟩ := h
  split at h
  · cases h
  · exact foldlM_keeps (fun _ _ _ => reachable_of_withEntity) (reachable_of_databaseHeadOf hhead) h

end Databases

end Document

end SchemaDdl
