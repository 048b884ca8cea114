import SchemaDdl.Document.Node
import SchemaDdl.Json.Written
import SchemaDdl.Schema.Database

/-!
# Loading a document

A document is turned into a database from the root down. Names of entities and targets are put into
StudlyCase; words of closed vocabularies are checked here, so that the model holds only words that
it knows; every rule that an entity or the database refuses is reported with the place of the object
that broke it.

* **`load`**: the database of a value.
* **`loadText`**: the database of a text, which may fail to be a document at all.
-/

namespace SchemaDdl.Document

/-- Words for referential actions. -/
def actionWords : List String := ["CASCADE", "SETNULL", "RESTRICT", "NONE"]

/-- Words for joins. -/
def joinWords : List String := ["INNER JOIN", "LEFT JOIN"]

/-- Words for the id method of a database. -/
def defaultIdWords : List String := ["NATIVE", "NONE"]

/-- Words for the id method of an entity. -/
def idWords : List String := ["NATIVE", "AUTOINCREMENT", "SEQUENCE", "NONE"]

/-- The id method under a key, if there is one. -/
def idMethod? (n : Node) (key : String) (allowed : List String) :
    Except Error (Option IdMethod) := do
  match ← n.oneOf? key allowed with
  | none => .ok none
  | some word =>
    match IdMethod.ofName? word with
    | some m => .ok (some m)
    | none => .error (n.defect key (.unknownIdMethod word))

-- ── Parts of entities ─────────────────────────────────────────────────────────

/-- One parameter of a vendor block. -/
def parameterOf (block : VendorBlock) (n : Node) : Except Error VendorBlock := do
  let name ← n.requiredText "name"
  let value ← n.scalar? "value"
  .ok (block.set name (value.getD ""))

/-- One vendor block, added to those before it. -/
def vendorOf (blocks : VendorBlocks) (n : Node) : Except Error VendorBlocks := do
  let kind ← n.requiredText "type"
  let parameters ← n.children "parameters" "parameter"
  let block ← parameters.foldlM parameterOf (.ofKind kind)
  .ok (blocks.add block)

/-- All vendor blocks of a node. -/
def vendorsOf (n : Node) : Except Error VendorBlocks := do
  (← n.children "vendors" "vendor").foldlM vendorOf .empty

/-- The column type of a field; text unless it says otherwise. -/
def typeOf (n : Node) : Except Error ColumnType := do
  match ← n.scalar? "type" with
  | none => .ok .varchar
  | some s =>
    match ColumnType.ofName? (Text.trim s) with
    | some ty => .ok ty
    | none => .error (n.defect "type" (.unknownType s))

/-- The literal default of a field, which has two spellings. -/
def literalDefault? (n : Node) : Except Error (Option String) := do
  match ← n.scalar? "default" with
  | some s => .ok (some s)
  | none => n.scalar? "defaultValue"

/-- The default of a field, of which there can be only one. -/
def defaultOf? (n : Node) : Except Error (Option FieldDefault) := do
  let value ← literalDefault? n
  let expression ← n.scalar? "defaultExpr"
  match value, expression with
  | some _, some _ => .error (Defect.twoDefaults.error n.path)
  | some s, none => .ok (some (.value s))
  | none, some s => .ok (some (.expression s))
  | none, none => .ok none

/-- A field. -/
def fieldOf (n : Node) : Except Error Field := do
  let type ← typeOf n
  let name ← n.requiredText "name"
  let primaryKey ← n.flag "primaryKey" false
  let required ← n.flag "required" false
  let autoIncrement ← n.flag "autoIncrement" false
  let size ← n.count? "size"
  let scale ← n.count? "scale"
  let sqlType ← n.scalar? "sqlType"
  let description ← n.scalar? "description"
  let lazyLoad ← n.flag "lazyLoad" false
  let primaryString ← n.flag "primaryString" false
  let valueSet ← n.list "valueSet"
  let vendor ← vendorsOf n
  let default ← defaultOf? n
  .ok { name, type, sqlType, size, scale, primaryKey, required, autoIncrement, default, description,
        valueSet, lazyLoad, primaryString, vendor }

/-- A field of an index. -/
def indexFieldOf (n : Node) : Except Error IndexField := do
  let name ← n.requiredText "name"
  let size ← n.count? "size"
  .ok ⟨name, size⟩

/-- An index. -/
def indexOf (unique : Bool) (n : Node) : Except Error Index := do
  let children ←
    if unique then n.children "unique-fields" "unique-field"
    else n.children "index-fields" "index-field"
  let fields ← children.mapM indexFieldOf
  let name ← n.scalar? "name"
  let vendor ← vendorsOf n
  .ok { name, fields, unique, vendor }

/-- A pair of a relation. -/
def referenceOf (n : Node) : Except Error Reference := do
  let localField ← n.requiredText "local"
  let foreignField ← n.requiredText "foreign"
  .ok { localField, foreignField }

/-- A relation. -/
def relationOf (n : Node) : Except Error Relation := do
  let target ← n.requiredText "target"
  let name ← n.scalar? "name"
  let field ← n.scalar? "field"
  let refField ← n.scalar? "refField"
  let refName ← n.scalar? "refName"
  let foreignSchema ← n.scalar? "foreignSchema"
  let skipSql ← n.flag "skipSql" false
  let vendor ← vendorsOf n
  let onUpdate ← n.oneOf? "onUpdate" actionWords
  let onDelete ← n.oneOf? "onDelete" actionWords
  let join ← n.oneOf? "defaultJoin" joinWords
  let references ← (← n.children "references" "reference").mapM referenceOf
  .ok { Relation.toTarget (Text.studly target) with
    name := .ofText (name.getD "")
    field, refField, refName, foreignSchema, skipSql, vendor, references
    onUpdate := .ofText? onUpdate
    onDelete := .ofText? onDelete
    defaultJoin := join.getD innerJoin }

-- ── Entities ──────────────────────────────────────────────────────────────────

/-- What an entity refuses, with the place of the object that broke the rule. -/
def atNode (n : Node) (message : String) (result : Except Violation α) : Except Error α :=
  match result with
  | .ok a => .ok a
  | .error v => .error (v.error.because (.ingestion n.path message))

/-- Read a field and add it. -/
def withField (e : Entity) (n : Node) : Except Error Entity := do
  let f ← fieldOf n
  atNode n "invalid field" (e.addField f)

/-- Read an index and add it. -/
def withIndex (unique : Bool) (e : Entity) (n : Node) : Except Error Entity := do
  let index ← indexOf unique n
  atNode n "invalid index" (e.addIndex index)

/-- Read a relation and add it. -/
def withRelation (e : Entity) (n : Node) : Except Error Entity := do
  let r ← relationOf n
  .ok (e.addRelation r)

/-- The attributes of an entity, without fields, indices and relations. -/
def headOf (n : Node) : Except Error Entity := do
  let name ← n.requiredText "name"
  let tableName ← n.scalar? "tableName"
  let schema ← n.scalar? "schema"
  let namespaceName ← n.scalar? "namespace"
  let skipSql ← n.flag "skipSql" false
  let readOnly ← n.flag "readOnly" false
  let isAbstract ← n.flag "abstract" false
  let isCrossRef ← n.flag "isCrossRef" false
  let description ← n.scalar? "description"
  let identifierQuoting ← n.flag? "identifierQuoting"
  let heavyIndexing ← n.flag? "heavyIndexing"
  let vendor ← vendorsOf n
  let idMethod ← idMethod? n "idMethod" idWords
  .ok { Entity.named (Text.studly name) with
    tableName, schema, namespaceName, skipSql, readOnly, isAbstract, isCrossRef, description,
    identifierQuoting, heavyIndexing, vendor, idMethod }

/-- An entity: its attributes, then fields, indices and relations, in this order. -/
def entityOf (n : Node) : Except Error Entity := do
  let e ← headOf n
  let fields ← n.children "fields" "field"
  if fields.isEmpty then .error (n.defect "fields" .noFields)
  else do
    let e ← fields.foldlM withField e
    let indices ← n.children "indices" "index"
    let uniques ← n.children "uniques" "unique"
    let e ← indices.foldlM (withIndex false) e
    let e ← uniques.foldlM (withIndex true) e
    let relations ← n.children "relations" "relation"
    relations.foldlM withRelation e

-- ── Databases ─────────────────────────────────────────────────────────────────

/-- Read an entity and register it. -/
def withEntity (db : Database) (n : Node) : Except Error Database := do
  let e ← entityOf n
  let (db, _) ← atNode n "cannot register entity" (db.addEntity e)
  .ok db

/-- The attributes of a database, without entities. -/
def databaseHeadOf (n : Node) : Except Error Database := do
  let name ← n.requiredText "name"
  let schema ← n.scalar? "schema"
  let namespaceName ← n.scalar? "namespace"
  let identifierQuoting ← n.flag? "identifierQuoting"
  let heavyIndexing ← n.flag "heavyIndexing" false
  let vendor ← vendorsOf n
  let idMethod ← idMethod? n "defaultIdMethod" defaultIdWords
  .ok { Database.named name with
    schema, namespaceName, identifierQuoting, heavyIndexing, vendor
    defaultIdMethod := idMethod.getD .native }

/-- A database: its attributes, then its entities. -/
def databaseOf (n : Node) : Except Error Database := do
  let db ← databaseHeadOf n
  let entities ← n.children "entities" "entity"
  if entities.isEmpty then .error (n.defect "entities" .noEntities)
  else entities.foldlM withEntity db

/-- The node of the database: the root's member of that name, or else the root itself. -/
def databaseNode (v : Json) : Except Error Node := do
  let root ← Node.of .document v
  match root.get? "database" with
  | some inner => Node.of (DocumentPath.document.key "database") inner
  | none => .ok root

/-- The database of a value. -/
def load (v : Json) : Except Error Database := do
  databaseOf (← databaseNode v)

/-- Why a text gives no database. -/
inductive LoadFailure where
  | notADocument
  | invalid (e : Error)

/-- The database of a text. -/
def loadText (s : String) : Except LoadFailure Database :=
  match Json.read? s with
  | none => .error .notADocument
  | some v =>
    match load v with
    | .error e => .error (.invalid e)
    | .ok db => .ok db

end SchemaDdl.Document
