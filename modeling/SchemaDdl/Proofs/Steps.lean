import SchemaDdl.History

/-!
# The steps of a normalization

Whatever a normalization does to a database, it does by giving up the native ids of an entity and by
adding indices to an entity, one after the other, up to the first that is refused. So what these two
kinds of steps keep is kept by every part of a normalization, also by one that fails on the way.

* **`StepsKeep`**: both kinds of steps keep a property.
* **`StepsKeep.normalize`**, **`StepsKeep.normalizePart`**: then so does a normalization, and each
  part of one.
-/

namespace SchemaDdl

/-- A property of databases that is kept by the steps that normalizations are made of, whether they
    go through or are refused. -/
structure StepsKeep (keeps : Database → Prop) : Prop where
  ids : ∀ (db : Database) (id : EntityId), keeps db →
    keeps (db.updateEntity id fun e => .ok { e with idMethod := some .none }).1
  index : ∀ (db : Database) (id : EntityId) (unique : Bool) (names : List String), keeps db →
    keeps (db.updateEntity id (·.addIndex (.ofNames unique names))).1

namespace StepsKeep

variable {keeps : Database → Prop} {db : Database}

/-- What two actions keep is kept by one after the other, also if the first of them fails. -/
theorem andThen {o : Outcome} {next : Database → Outcome} (hfirst : keeps o.1)
    (hnext : ∀ db' : Database, keeps db' → keeps (next db').1) : keeps (o.andThen next).1 := by
  obtain ⟨db', reply⟩ := o
  cases reply with
  | error f => exact hfirst
  | ok _ => exact hnext db' hfirst

/-- An action that keeps a property keeps it also where the entity is missing, since nothing is
    done. -/
theorem withEntity {id : EntityId} {act : Entity → Outcome} (hdb : keeps db)
    (hact : ∀ e, keeps (act e).1) : keeps (db.withEntity id act).1 := by
  rw [Database.withEntity]
  cases db.entity? id with
  | none => exact hdb
  | some e => exact hact e

variable (h : StepsKeep keeps)
include h

theorem addIndices (id : EntityId) (unique : Bool) (planned : List (List String))
    (hdb : keeps db) : keeps (Database.addIndices id unique planned db).1 := by
  induction planned generalizing db with
  | nil => exact hdb
  | cons names rest ih => exact andThen (h.index db id unique names hdb) fun _ => ih

theorem fixIdMethod (id : EntityId) (hdb : keeps db) : keeps (db.fixIdMethod id).1 := by
  refine withEntity hdb fun e => ?_
  split
  · exact h.ids db id hdb
  · exact hdb

theorem ensureInverseIndices (id : EntityId) (hdb : keeps db) :
    keeps (db.ensureInverseIndices id).1 :=
  withEntity hdb fun _ => h.addIndices id true _ hdb

theorem ensureRelationIndices (id : EntityId) (hdb : keeps db) :
    keeps (db.ensureRelationIndices id).1 :=
  withEntity hdb fun _ => h.addIndices id false _ hdb

theorem ensureHeavyIndices (id : EntityId) (hdb : keeps db) :
    keeps (db.ensureHeavyIndices id).1 := by
  refine withEntity hdb fun e => ?_
  split
  · exact h.addIndices id false _ hdb
  · exact hdb

theorem normalizeEntity (id : EntityId) (hdb : keeps db) : keeps (db.normalizeEntity id).1 := by
  have hids : keeps (db.fixIdMethod id).1 := h.fixIdMethod id hdb
  have hinverses := andThen hids fun _ => h.ensureInverseIndices id
  exact andThen hinverses fun _ => h.ensureHeavyIndices id

variable (p : Platform)

/-- What a platform does with an entity is made of the same steps. -/
theorem platformEntity (id : EntityId) (hdb : keeps db) : keeps (p.normalizeEntity id db).1 := by
  rw [Platform.normalizeEntity]
  cases p.dialect with
  | generic => exact h.normalizeEntity id hdb
  | postgresql => exact h.normalizeEntity id hdb
  | mysql _ => exact andThen (h.normalizeEntity id hdb) fun _ => h.ensureRelationIndices id
  | sqlite =>
      refine withEntity hdb fun e => ?_
      cases e.sqliteRefusal? with
      | some _ => exact hdb
      | none => exact h.normalizeEntity id hdb

theorem normalizeEntities (ids : List EntityId) (hdb : keeps db) :
    keeps (p.normalizeEntities ids db).1 := by
  induction ids generalizing db with
  | nil => exact hdb
  | cons id ids ih => exact andThen (h.platformEntity p id hdb) fun _ => ih

/-- What the steps keep is kept by a run over all entities, however far it gets. -/
theorem normalize (hdb : keeps db) : keeps (p.normalize db).1 :=
  h.normalizeEntities p db.entityIds hdb

/-- What the steps keep is kept by every part of a normalization that can be asked for alone. -/
theorem normalizePart (id : EntityId) (part : NormalizationPart) (hdb : keeps db) :
    keeps (db.normalizePart p id part).1 := by
  cases part with
  | entity => exact h.platformEntity p id hdb
  | idMethod => exact h.fixIdMethod id hdb
  | inverseIndices => exact h.ensureInverseIndices id hdb
  | relationIndices => exact h.ensureRelationIndices id hdb
  | heavyIndices => exact h.ensureHeavyIndices id hdb

end StepsKeep

end SchemaDdl
