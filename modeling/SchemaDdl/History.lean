import SchemaDdl.Finalize.Basic
import SchemaDdl.Schema.Change

/-!
# Histories of a database

A history is a list of operations, each of which may fail without ending the history.

* **`Operation`**: what is done to a database from outside. Attributes are set, entities and their
  parts are added, and the database is finalized or normalized. Replacing a field
  (`Entity.replaceField`) is not an operation, because it goes past the rules for adding one.
* **`Database.run`**: one operation, with its reply; the state after it counts also if it failed.
* **`Database.Reachable`**: the states that some history leads to from an empty database.
-/

namespace SchemaDdl

/-- An attribute of a database with a new value. -/
inductive DatabaseAttribute where
  | name (s : String)
  | schema (s : Option String)
  | namespaceName (s : Option String)
  | defaultIdMethod (m : IdMethod)
  | identifierQuoting (b : Option Bool)
  | heavyIndexing (b : Bool)
  | vendor (blocks : VendorBlocks)
  deriving DecidableEq, Repr

/-- One of the steps that normalization is made of, or all of them. -/
inductive NormalizationPart where
  | entity
  | idMethod
  | inverseIndices
  | relationIndices
  | heavyIndices
  deriving DecidableEq, Repr

/-- Something that is done to a database. -/
inductive Operation where
  | assign (attributes : List DatabaseAttribute)
  | addEntity (draft : EntityDraft)
  | change (id : EntityId) (change : EntityChange)
  | finalize (p : Platform)
  | normalize (p : Platform)
  | normalizeEntity (p : Platform) (id : EntityId) (part : NormalizationPart)
  deriving DecidableEq, Repr

/-- What an operation answers when it goes through. -/
inductive Reply where
  | done
  | entity (id : EntityId)
  | relation (id : RelationId)
  deriving DecidableEq, Repr

namespace Database

/-- Set one attribute. The finalized flag is not touched. -/
def assign (db : Database) : DatabaseAttribute → Database
  | .name name => { db with name }
  | .schema schema => { db with schema }
  | .namespaceName namespaceName => { db with namespaceName }
  | .defaultIdMethod defaultIdMethod => { db with defaultIdMethod }
  | .identifierQuoting identifierQuoting => { db with identifierQuoting }
  | .heavyIndexing heavyIndexing => { db with heavyIndexing }
  | .vendor vendor => { db with vendor }

/-- Do one part of the normalization of an entity. -/
def normalizePart (p : Platform) (id : EntityId) (part : NormalizationPart) (db : Database) :
    Outcome :=
  match part with
  | .entity => p.normalizeEntity id db
  | .idMethod => db.fixIdMethod id
  | .inverseIndices => db.ensureInverseIndices id
  | .relationIndices => db.ensureRelationIndices id
  | .heavyIndices => db.ensureHeavyIndices id

/-- Build an entity and register it. -/
def register (db : Database) (draft : EntityDraft) : Database × Except Failure Reply :=
  match draft.build with
  | .error v => (db, .error (.error v.error))
  | .ok e =>
    match db.addEntity e with
    | .error v => (db, .error (.error v.error))
    | .ok (db, id) => (db, .ok (.entity id))

/-- The reply to a change of an entity, as the entity was before. -/
def replyTo (db : Database) (id : EntityId) : EntityChange → Reply
  | .addRelation _ => ((db.entity? id).map fun e => .relation e.nextRelationId).getD .done
  | _ => .done

/-- An outcome with a reply. -/
def answered (o : Outcome) (reply : Reply) : Database × Except Failure Reply :=
  (o.1, o.2.map fun _ => reply)

/-- Do an operation. -/
def run (db : Database) : Operation → Database × Except Failure Reply
  | .assign attributes => (attributes.foldl assign db, .ok .done)
  | .addEntity draft => db.register draft
  | .change id c => answered (db.updateEntity id (·.change c)) (db.replyTo id c)
  | .finalize p => answered (db.finalize p) .done
  | .normalize p => answered (p.normalize db) .done
  | .normalizeEntity p id part => answered (db.normalizePart p id part) .done

/-- The state after a history. -/
def runAll (db : Database) (history : List Operation) : Database :=
  history.foldl (fun db op => (db.run op).1) db

/-- Whether some history leads from an empty database to a state. -/
def Reachable (db : Database) : Prop :=
  ∃ (name : String) (history : List Operation), db = (Database.named name).runAll history

end Database

end SchemaDdl
