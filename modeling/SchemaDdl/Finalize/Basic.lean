import SchemaDdl.Finalize.Normalize

/-!
# Finalizing a database

Finalizing resolves the whole graph for a platform, in three passes.

* **Binding**: every relation is verified before any is bound, so that a failure leaves nothing
  half bound.
* **Normalization**: the platform works on the entities one by one. A failure here leaves what was
  done before it.
* **Naming**: all generated names are computed before any is fixed, so that no name depends on
  another one being fixed first.
-/

namespace SchemaDdl

namespace Database

-- ── Binding ───────────────────────────────────────────────────────────────────

/-- A relation's place and the position of its target. -/
structure Binding where
  relation : RelationId
  target : EntityId
  deriving DecidableEq, Repr

/-- The bindings of a list of relations, up to the first that cannot be resolved. -/
def bindingsOf (db : Database) : List Relation → Except Error (List Binding)
  | [] => .ok []
  | r :: rs =>
    match r.verify db with
    | .error e => .error e
    | .ok target =>
      match db.bindingsOf rs with
      | .error e => .error e
      | .ok rest => .ok (⟨r.id, target⟩ :: rest)

/-- Change the relation of an id, if it is there. -/
def modifyRelation (db : Database) (id : RelationId) (change : Relation → Relation) : Database :=
  match id.entity, id.index with
  | some position, some i =>
    db.modifyEntity position fun e => { e with relations := e.relations.modify i change }
  | _, _ => db

/-- Bind one relation. -/
def bind (db : Database) (b : Binding) : Database :=
  db.modifyRelation b.relation fun r => { r with bound := b.target }

/-- Bind all relations to their targets. -/
def bindRelations (db : Database) : Except Error Database :=
  match db.bindingsOf db.relations with
  | .error e => .error e
  | .ok bindings => .ok (bindings.foldl bind db)

-- ── Naming ────────────────────────────────────────────────────────────────────

/-- The names to fix on relations: those that are derived and not fixed yet. -/
def relationNamesToFix (db : Database) : List (RelationId × String) :=
  (db.relations.filter (·.storedName?.isNone)).map fun r => (r.id, r.autoName db)

/-- An index with its name fixed. -/
def namedIndex (table : String) (index : Index) : Index :=
  { index with name := some (index.nameOn table) }

/-- An entity with all of its indices named. -/
def withNamedIndices (e : Entity) : Entity :=
  { e with indices := e.indices.map (namedIndex e.table) }

/-- Fix all generated names. -/
def fixNames (db : Database) : Database :=
  let named := db.relationNamesToFix.foldl
    (fun acc n => acc.modifyRelation n.1 (·.fixName n.2)) db
  { named with entities := named.entities.map withNamedIndices }

-- ── Finalizing ────────────────────────────────────────────────────────────────

/-- What is put in front of a failure to bind. -/
def finalizingNote (db : Database) : Note :=
  .adhoc (Text.concat ["finalizing database `", db.name, "`"])

/-- Resolve the whole graph for a platform. -/
def finalize (p : Platform) (db : Database) : Outcome :=
  match db.bindRelations with
  | .error e => (db, .error (.error (e.because db.finalizingNote)))
  | .ok bound =>
    (p.normalize bound).andThen fun db => ({ db.fixNames with finalized := true }, .ok ())

end Database

end SchemaDdl
