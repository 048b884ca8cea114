import SchemaDdl.History
import SchemaDdl.Proofs.Finalization

/-!
# Reachable databases

What holds of every state that a history leads to. Each operation keeps it, so that it holds after
any number of them, whether they went through or failed.

* **`Database.Sound`**: ids tell the place, and a finalized database is resolved and has all names.
* **`Database.Sound.run`**, **`Database.Reachable.sound`**: one operation keeps a database sound,
  and so every reachable database is.
-/

namespace SchemaDdl

namespace Database

variable {db db' : Database}

/-- What holds of a database at any time. -/
structure Sound (db : Database) : Prop where
  placed : db.Placed
  resolved : db.finalized = true → db.Resolved
  named : db.finalized = true → db.Named

/-- A database that is not finalized has nothing to keep but its ids. -/
theorem Sound.of_unfinalized (hp : db.Placed) (hflag : db.finalized = false) : db.Sound where
  placed := hp
  resolved := fun h => absurd h (by rw [hflag]; exact Bool.false_ne_true)
  named := fun h => absurd h (by rw [hflag]; exact Bool.false_ne_true)

theorem sound_named (name : String) : (named name).Sound :=
  .of_unfinalized (placed_named name) rfl

/-- Setting attributes leaves the entities and the flag alone. -/
theorem foldl_assign (attributes : List DatabaseAttribute) (db : Database) :
    (attributes.foldl assign db).entities = db.entities ∧
      (attributes.foldl assign db).finalized = db.finalized := by
  induction attributes generalizing db with
  | nil => exact ⟨rfl, rfl⟩
  | cons a attributes ih =>
      obtain ⟨hentities, hflag⟩ := ih (db.assign a)
      rw [List.foldl_cons, hentities, hflag]
      cases a <;> exact ⟨rfl, rfl⟩

/-- Registering an entity fails and does nothing, or it adds an entity that could be built. -/
theorem register_cases (db : Database) (draft : EntityDraft) :
    (∃ f, db.register draft = (db, .error f)) ∨
    ∃ e d id, draft.build = .ok e ∧ db.addEntity e = .ok (d, id) ∧
      db.register draft = (d, .ok (.entity id)) := by
  rw [register]
  cases draft.build with
  | error v => exact Or.inl ⟨_, rfl⟩
  | ok e =>
      dsimp only
      cases hadd : db.addEntity e with
      | error v => exact Or.inl ⟨_, rfl⟩
      | ok added => exact Or.inr ⟨e, added.1, added.2, rfl, hadd, rfl⟩

/-- Being resolved is a matter of the entities. -/
theorem Resolved.of_entities_eq (h : db.Resolved) (heq : db'.entities = db.entities) :
    db'.Resolved := by
  have hrelations : db'.relations = db.relations := by rw [relations, relations, heq]
  have hentity : ∀ id, db'.entity? id = db.entity? id := fun id => by rw [entity?, entity?, heq]
  intro r hr
  rw [hrelations] at hr
  rw [hentity]
  exact h r hr

namespace Sound

/-- Being sound is a matter of the entities and the flag. -/
theorem of_entities_eq (h : db.Sound) (heq : db'.entities = db.entities)
    (hflag : db'.finalized = db.finalized) : db'.Sound where
  placed := h.placed.of_entities_eq heq
  resolved := fun hf => (h.resolved (hflag ▸ hf)).of_entities_eq heq
  named := by
    intro hf
    rw [Named, heq]
    exact h.named (hflag ▸ hf)

/-- Growth keeps a database sound: it is the same database, or not finalized any more. -/
theorem of_grows (h : db.Sound) (hg : db.Grows db') : db'.Sound := by
  cases hflag : db'.finalized with
  | true =>
      rw [hg.flag hflag]
      exact h
  | false => exact .of_unfinalized (hg.placed h.placed) hflag

theorem addEntity (h : db.Sound) {e : Entity} {id : EntityId}
    (hok : db.addEntity e = .ok (db', id)) : db'.Sound := by
  refine .of_unfinalized (h.placed.addEntity hok) ?_
  rw [addEntity_eq_ok hok]

/-- Registering adds an entity in its place, or does nothing. -/
theorem register (h : db.Sound) (draft : EntityDraft) : (db.register draft).1.Sound := by
  rcases register_cases db draft with ⟨f, heq⟩ | ⟨e, d, id, -, hadd, heq⟩
  · rw [heq]
    exact h
  · rw [heq]
    exact h.addEntity hadd

/-- A change clears the flag, so nothing has to be resolved or named after it. -/
theorem updateEntity (h : db.Sound) (id : EntityId) (c : EntityChange) :
    (db.updateEntity id (·.change c)).1.Sound :=
  .of_unfinalized (h.placed.updateEntity fun _ _ hc hnum => hnum.change hc)
    (finalized_updateEntity db id (·.change c))

/-- Finalizing keeps a database sound, also if it fails: a failure in the middle leaves a database
    that is not finalized, or the one from before. -/
theorem finalize (h : db.Sound) (p : Platform) : (db.finalize p).1.Sound := by
  rcases finalize_cases h.placed p with ⟨f, heq⟩ | ⟨hverified, mid, hgrows, hcase⟩
  · rw [heq]
    exact h
  · have hbound : db.allBound.Placed := h.placed.mapRelations fun _ => rfl
    have hresolved : db.allBound.Resolved := resolved_allBound h.placed hverified
    rcases hcase with ⟨f, -, heq⟩ | ⟨-, heq⟩
    · rw [heq]
      have hsound : db.allBound.Sound := by
        refine ⟨hbound, fun _ => hresolved, fun hflag => ?_⟩
        rw [(h.resolved hflag).allBound_eq_self h.placed]
        exact h.named hflag
      exact hsound.of_grows hgrows
    · rw [heq]
      exact ⟨(hgrows.placed hbound).allNamed.of_entities_eq rfl,
        fun _ => ((hresolved.of_grows hgrows).allNamed).of_entities_eq rfl,
        fun _ => named_allNamed mid⟩

/-- Every operation keeps a database sound. -/
theorem run (h : db.Sound) (op : Operation) : (db.run op).1.Sound := by
  cases op with
  | assign attributes =>
      obtain ⟨hentities, hflag⟩ := foldl_assign attributes db
      exact h.of_entities_eq hentities hflag
  | addEntity draft => exact h.register draft
  | change id c => exact h.updateEntity id c
  | finalize p => exact h.finalize p
  | normalize p => exact h.of_grows (p.normalize_grows db)
  | normalizeEntity p id part => exact h.of_grows (normalizePart_grows p id part db)

end Sound

-- ── Histories ─────────────────────────────────────────────────────────────────

/-- What holds of an empty database and is kept by every operation holds of every reachable
    database. -/
theorem Reachable.induct {motive : Database → Prop} (hempty : ∀ name, motive (Database.named name))
    (hrun : ∀ (db : Database) (op : Operation), motive db → motive (db.run op).1)
    (h : db.Reachable) : motive db := by
  obtain ⟨name, history, rfl⟩ := h
  have hall : ∀ db : Database, motive db → motive (db.runAll history) := by
    induction history with
    | nil => exact fun _ hdb => hdb
    | cons op history ih => exact fun db hdb => ih _ (hrun db op hdb)
  exact hall _ (hempty name)

/-- An operation leads from a reachable database to a reachable one. -/
theorem Reachable.run (h : db.Reachable) (op : Operation) : (db.run op).1.Reachable := by
  obtain ⟨name, history, rfl⟩ := h
  refine ⟨name, history ++ [op], ?_⟩
  simp only [runAll, List.foldl_append]
  rfl

/-- What a finalization leaves is reachable. -/
theorem Reachable.finalize (h : db.Reachable) {p : Platform} {reply : Except Failure Unit}
    (heq : db.finalize p = (db', reply)) : db'.Reachable := by
  have hrun := h.run (.finalize p)
  rw [Database.run, heq] at hrun
  exact hrun

/-- Every reachable database is sound. -/
theorem Reachable.sound (h : db.Reachable) : db.Sound :=
  h.induct sound_named fun _ op hdb => hdb.run op

-- ── A small community ─────────────────────────────────────────────────────────

/-- A key field whose values are made by the database. -/
private def idField : Field :=
  { Field.plain "id" .integer with primaryKey := true, autoIncrement := true }

/-- A key field that refers to another entity. -/
private def keyField (name : String) : Field :=
  { Field.plain name .integer with primaryKey := true }

/-- A relation of one pair. -/
private def relationTo (target localField foreignField : String) : Relation :=
  (Relation.toTarget target).addReference ⟨localField, foreignField⟩

/-- Users and profiles that point at one another, finalized, and a junction added afterwards. -/
def communityHistory : List Operation := [
  .assign [.heavyIndexing true],
  .addEntity ⟨"User", [
    .addField idField, .addField (.plain "profile_id" .integer),
    .addIndex (.ofNames false ["profile_id"]),
    .addRelation (relationTo "Profile" "profile_id" "id")]⟩,
  .addEntity ⟨"Profile", [
    .addField idField, .addField (.plain "user_id" .integer),
    .addRelation (relationTo "User" "id" "profile_id")]⟩,
  .finalize ⟨.generic, false⟩,
  .addEntity ⟨"Membership", [
    .addField (keyField "user_id"), .addField (keyField "profile_id"),
    .addRelation (relationTo "User" "user_id" "id"),
    .addRelation (relationTo "Profile" "profile_id" "id")]⟩]

/-- The state that `communityHistory` leads to. -/
def community : Database := (named "community").runAll communityHistory

theorem community_reachable : community.Reachable := ⟨"community", communityHistory, rfl⟩

end Database

end SchemaDdl
