import SchemaDdl.Proofs.Casing
import SchemaDdl.Proofs.Loading
import SchemaDdl.Proofs.Members
import SchemaDdl.Proofs.WellFormed

/-!
# What a loaded database comes from

Whatever a document holds, a database that is loaded from it is well-formed, and its parts stand for
the objects of the document in their order. Both are said together, part by part: a part is read
from an object, its members hold what the part needs, and its own parts are read from the objects of
the collections.

* **`Json.Gives`**: the objects of a collection and what is read from them, in step.
* **`Reference.ReadFrom`**, **`Field.ReadFrom`**, **`Index.ReadFrom`**, **`Relation.ReadFrom`**,
  **`Entity.ReadFrom`**, **`Database.ReadFrom`**: what holds of each part.
* **`Document.readFrom_of_load`**: all of it holds of a loaded database.
-/

namespace SchemaDdl

-- ── Parts and the objects they are read from ──────────────────────────────────

/-- A text that is not blank stands under a key. -/
def Json.Says (v : Json) (key s : String) : Prop :=
  v.member? key = some (.text s) ∧ Text.isBlankText s = false

/-- A collection has nothing but objects, and each of them gives one item, in order. -/
def Json.Gives {α : Type} (v : Json) (plural singular : String) (R : Json → α → Prop)
    (items : List α) : Prop :=
  List.Forall₂ (fun w a => w.isObject = true ∧ R w a) (v.childObjects plural singular) items

/-- A kind of database in lower case. -/
def VendorBlock.Lowered (block : VendorBlock) : Prop := Text.lower block.kind = block.kind

/-- Each block stands under its own kind, kinds are in lower case, and none occurs twice. -/
structure VendorBlocks.Keyed (blocks : VendorBlocks) : Prop where
  keyed : blocks.toList.map (·.kind) = blocks.byKind.keys
  lower : ∀ block ∈ blocks.toList, block.Lowered
  distinct : (blocks.toList.map (·.kind)).Nodup

/-- A pair of fields that are both named. -/
structure Reference.ReadFrom (v : Json) (pair : Reference) : Prop where
  localField : v.Says "local" pair.localField
  foreignField : v.Says "foreign" pair.foreignField

/-- A field under the name that its object gives. -/
structure Field.ReadFrom (v : Json) (f : Field) : Prop where
  name : v.Says "name" f.name
  vendor : f.vendor.Keyed

/-- An index over the fields that its object names. -/
structure Index.ReadFrom (unique : Bool) (v : Json) (index : Index) : Prop where
  unique : index.unique = unique
  fields :
    v.Gives (if index.unique then "unique-fields" else "index-fields")
      (if index.unique then "unique-field" else "index-field")
      (fun w f => w.Says "name" f.name) index.fields
  vendor : index.vendor.Keyed

/-- A relation with actions and a join that are known, and not bound to anything yet. -/
structure Relation.ReadFrom (v : Json) (r : Relation) : Prop where
  target : ∃ s, v.Says "target" s ∧ r.target = Text.studly s
  onUpdate : r.onUpdate ∈ [.none, .cascade, .setNull, .restrict]
  onDelete : r.onDelete ∈ [.none, .cascade, .setNull, .restrict]
  defaultJoin : r.defaultJoin ∈ ["INNER JOIN", "LEFT JOIN"]
  references : v.Gives "references" "reference" Reference.ReadFrom r.references
  bound : r.bound = none
  vendor : r.vendor.Keyed

/-- A well-formed entity with fields, whose parts are read from the parts of its object. Indices
    that are not unique come first. Without a schema of its own it has an inherited one. -/
structure Entity.ReadFrom (inherited : Option String) (v : Json) (e : Entity) : Prop where
  name : ∃ s, v.Says "name" s ∧ e.name = Text.studly s
  schema : v.member? "schema" = none → e.schema = inherited
  wellFormed : e.WellFormed
  fields_ne : e.fields ≠ []
  fields : v.Gives "fields" "field" Field.ReadFrom e.fields
  indices : ∃ plain unique, e.indices = plain ++ unique ∧
    v.Gives "indices" "index" (Index.ReadFrom false) plain ∧
    v.Gives "uniques" "unique" (Index.ReadFrom true) unique
  relations : v.Gives "relations" "relation" Relation.ReadFrom e.relations
  vendor : e.vendor.Keyed

/-- A database with entities under distinct full names, which are read from the objects of its
    collection. -/
structure Database.ReadFrom (v : Json) (db : Database) : Prop where
  name : v.Says "name" db.name
  entities_ne : db.entities ≠ []
  entities : v.Gives "entities" "entity" (Entity.ReadFrom db.schema) db.entities
  named : ∀ e ∈ db.entities, e.name ≠ ""
  distinct : (db.entities.map (·.fullName)).Nodup
  defaultIdMethod : db.defaultIdMethod = .native ∨ db.defaultIdMethod = .none
  vendor : db.vendor.Keyed

/-- The id of a relation is not read. -/
theorem Relation.ReadFrom.withId {v : Json} {r : Relation} (h : r.ReadFrom v) (id : RelationId) :
    Relation.ReadFrom v { r with id := id } :=
  ⟨h.target, h.onUpdate, h.onDelete, h.defaultJoin, h.references, h.bound, h.vendor⟩

namespace Json.Gives

variable {α : Type} {v : Json} {plural singular : String} {R : Json → α → Prop} {items : List α}

/-- What the nodes of a collection give, its objects give. -/
theorem of_children {n : Document.Node} (hn : n.Reads v) {nodes : List Document.Node}
    (hnodes : n.children plural singular = .ok nodes) {read : Document.Node → α → Prop}
    (hread : ∀ w child a, child.Reads w → read child a → R w a)
    (h : List.Forall₂ read nodes items) : v.Gives plural singular R items := by
  have hreads := Document.Node.reads_children hnodes
  rw [hn.items] at hreads
  exact forall₂_trans hreads h fun w child a hw ha => ⟨hw.isObject, hread w child a hw ha⟩

end Json.Gives

-- ── Vendor blocks ─────────────────────────────────────────────────────────────

theorem VendorBlock.lowered_ofKind (kind : String) : (ofKind kind).Lowered := by
  simp only [Lowered, ofKind]
  exact Text.lower_lower kind

namespace VendorBlocks

theorem keyed_empty : empty.Keyed :=
  ⟨rfl, fun _ hblock => (nomatch hblock), List.nodup_nil⟩

/-- The same, entry by entry. -/
theorem keyed_iff {blocks : VendorBlocks} :
    blocks.Keyed ↔ (∀ e ∈ blocks.byKind.entries, e.2.kind = e.1 ∧ Text.lower e.1 = e.1) ∧
      blocks.byKind.keys.Nodup := by
  have hkeyed : blocks.toList.map (·.kind) = blocks.byKind.keys ↔
      ∀ e ∈ blocks.byKind.entries, e.2.kind = e.1 := by
    rw [toList, List.map_map, OrderedMap.keys, List.map_inj_left]
    rfl
  constructor
  · intro h
    have hown := hkeyed.mp h.keyed
    refine ⟨fun e he => ⟨hown e he, ?_⟩, h.keyed ▸ h.distinct⟩
    have hlower := h.lower e.2 (List.mem_map_of_mem he)
    rwa [VendorBlock.Lowered, hown e he] at hlower
  · rintro ⟨hentries, hdistinct⟩
    have heq := hkeyed.mpr fun e he => (hentries e he).1
    refine ⟨heq, fun block hblock => ?_, heq ▸ hdistinct⟩
    obtain ⟨e, he, rfl⟩ := List.mem_map.mp hblock
    rw [VendorBlock.Lowered, (hentries e he).1, (hentries e he).2]

/-- A block that is put under its own kind in lower case keeps all blocks under their kinds. -/
theorem Keyed.put {blocks : VendorBlocks} (h : blocks.Keyed) {key : String} {block : VendorBlock}
    (hkey : block.kind = key) (hlower : Text.lower key = key) :
    Keyed ⟨blocks.byKind.put key block⟩ := by
  obtain ⟨hentries, hdistinct⟩ := keyed_iff.mp h
  refine keyed_iff.mpr ⟨fun e he => ?_, OrderedMap.nodup_keys_put hdistinct⟩
  rcases OrderedMap.mem_entries_put he with rfl | hold
  · exact ⟨hkey, hlower⟩
  · exact hentries e hold

/-- A block of a kind that is there already is merged into the one of that kind. -/
theorem Keyed.add {blocks : VendorBlocks} (h : blocks.Keyed) {block : VendorBlock}
    (hlower : block.Lowered) : (blocks.add block).Keyed := by
  rw [VendorBlocks.add]
  split
  · exact h.put rfl hlower
  · rename_i old hold
    exact h.put ((keyed_iff.mp h).1 _ (OrderedMap.mem_of_get? hold)).1 hlower

end VendorBlocks

namespace Document

variable {n : Node} {v : Json}

/-- Setting parameters leaves the kind of a block alone, and the kind is in lower case from the
    start. -/
theorem keyed_of_vendorOf {blocks blocks' : VendorBlocks} (h : blocks.Keyed)
    (hok : vendorOf blocks n = .ok blocks') : blocks'.Keyed := by
  simp only [vendorOf, bind_eq_ok] at hok
  obtain ⟨kind, -, parameters, -, block, hblock, hok⟩ := hok
  injection hok with hok
  -- parameters do not touch the kind of their block
  have hkeeps : ∀ b child b', VendorBlock.Lowered b → parameterOf b child = .ok b' →
      b'.Lowered := by
    intro b child b' hb hstep
    simp only [parameterOf, bind_eq_ok] at hstep
    obtain ⟨name, -, value, -, hstep⟩ := hstep
    injection hstep with hstep
    rw [← hstep]
    exact hb
  have hlower : block.Lowered := foldlM_keeps hkeeps (VendorBlock.lowered_ofKind kind) hblock
  rw [← hok]
  exact h.add hlower

/-- All vendor blocks of a node stand under their kinds. -/
theorem keyed_of_vendorsOf {blocks : VendorBlocks} (h : vendorsOf n = .ok blocks) :
    blocks.Keyed := by
  simp only [vendorsOf, bind_eq_ok] at h
  obtain ⟨nodes, -, h⟩ := h
  exact foldlM_keeps (fun _ _ _ => keyed_of_vendorOf) VendorBlocks.keyed_empty h

-- ── Closed vocabularies ───────────────────────────────────────────────────────

/-- The words for actions stand for the actions that are known by name. -/
theorem ofText?_of_oneOf? {key : String} {word : Option String}
    (h : n.oneOf? key actionWords = .ok word) :
    ReferentialAction.ofText? word ∈ [.none, .cascade, .setNull, .restrict] := by
  have hwords : ∀ w ∈ actionWords, ReferentialAction.ofText? (some w) ∈
      [.none, .cascade, .setNull, .restrict] := by decide +kernel
  cases word with
  | none => exact List.mem_cons_self
  | some w => exact hwords w (Node.oneOf?_eq_ok h)

/-- A join is one of the words for joins, also if the document has none. -/
theorem getD_of_oneOf? {key : String} {word : Option String}
    (h : n.oneOf? key joinWords = .ok word) :
    word.getD innerJoin ∈ ["INNER JOIN", "LEFT JOIN"] := by
  cases word with
  | none => exact List.mem_cons_self
  | some w => exact Node.oneOf?_eq_ok h

/-- The words for the id method of a database stand for two of the methods. -/
theorem getD_of_idMethod? {key : String} {method : Option IdMethod}
    (h : idMethod? n key defaultIdWords = .ok method) :
    method.getD .native = .native ∨ method.getD .native = .none := by
  have hwords : ∀ w ∈ defaultIdWords, ∀ m, IdMethod.ofName? w = some m →
      m = .native ∨ m = .none := by decide +kernel
  simp only [idMethod?, bind_eq_ok] at h
  obtain ⟨word, hword, h⟩ := h
  cases word with
  | none =>
      injection h with h
      rw [← h]
      exact .inl rfl
  | some w =>
      dsimp only at h
      cases hm : IdMethod.ofName? w with
      | none =>
          rw [hm] at h
          exact nomatch h
      | some m =>
          rw [hm] at h
          injection h with h
          rw [← h]
          exact hwords w (Node.oneOf?_eq_ok hword) m hm

-- ── Parts of entities ─────────────────────────────────────────────────────────

/-- Both sides of a pair are required texts of its object. -/
theorem readFrom_of_referenceOf {pair : Reference} (hn : n.Reads v)
    (h : referenceOf n = .ok pair) : pair.ReadFrom v := by
  simp only [referenceOf, bind_eq_ok] at h
  obtain ⟨localField, hlocal, foreignField, hforeign, h⟩ := h
  injection h with h
  subst h
  exact ⟨hn.requiredText hlocal, hn.requiredText hforeign⟩

/-- A field is known by the required text under its name, and its vendor blocks stand under their
    kinds. -/
theorem readFrom_of_fieldOf {f : Field} (hn : n.Reads v) (h : fieldOf n = .ok f) :
    f.ReadFrom v := by
  simp only [fieldOf, bind_eq_ok] at h
  obtain ⟨type, -, name, hname, primaryKey, -, required, -, autoIncrement, -, size, -, scale, -,
    sqlType, -, description, -, lazyLoad, -, primaryString, -, valueSet, -, vendor, hvendor,
    default, -, h⟩ := h
  injection h with h
  subst h
  exact ⟨hn.requiredText hname, keyed_of_vendorsOf hvendor⟩

/-- The target is put into StudlyCase, words for actions and joins are known words, and the pairs
    stand in the order of their objects. -/
theorem readFrom_of_relationOf {r : Relation} (hn : n.Reads v) (h : relationOf n = .ok r) :
    r.ReadFrom v := by
  simp only [relationOf, bind_eq_ok] at h
  obtain ⟨target, htarget, name, -, field, -, refField, -, refName, -, foreignSchema, -, skipSql, -,
    vendor, hvendor, onUpdate, hupdate, onDelete, hdelete, join, hjoin, nodes, hnodes, references,
    hreferences, h⟩ := h
  injection h with h
  subst h
  exact {
    target := ⟨target, hn.requiredText htarget, rfl⟩
    onUpdate := ofText?_of_oneOf? hupdate
    onDelete := ofText?_of_oneOf? hdelete
    defaultJoin := getD_of_oneOf? hjoin
    references := .of_children hn hnodes (fun _ _ _ => readFrom_of_referenceOf)
      (mapM_eq_ok.mp hreferences)
    bound := rfl
    vendor := keyed_of_vendorsOf hvendor }

/-- The fields of an index stand in the order of their objects, under the keys that indices of its
    kind have for them. -/
theorem readFrom_of_indexOf {unique : Bool} {index : Index} (hn : n.Reads v)
    (h : indexOf unique n = .ok index) : index.ReadFrom unique v := by
  have hfield : ∀ w child (f : IndexField), child.Reads w → indexFieldOf child = .ok f →
      w.Says "name" f.name := by
    intro w child f hchild hf
    simp only [indexFieldOf, bind_eq_ok] at hf
    obtain ⟨name, hname, size, -, hf⟩ := hf
    injection hf with hf
    rw [← hf]
    exact hchild.requiredText hname
  rw [indexOf_eq] at h
  simp only [bind_eq_ok] at h
  obtain ⟨nodes, hnodes, fields, hfields, name, -, vendor, hvendor, h⟩ := h
  injection h with h
  subst h
  exact ⟨rfl, .of_children hn hnodes hfield (mapM_eq_ok.mp hfields), keyed_of_vendorsOf hvendor⟩

-- ── Entities ──────────────────────────────────────────────────────────────────

/-- Fields go behind those that are there, in order. -/
theorem fields_of_foldlM {nodes : List Node} {e e' : Entity}
    (h : nodes.foldlM withField e = .ok e') :
    ∃ fields, e' = { e with fields := e.fields ++ fields } ∧
      List.Forall₂ (fun child f => fieldOf child = .ok f) nodes fields := by
  have hstep : ∀ fields child e', withField { e with fields := e.fields ++ fields } child = .ok e' →
      ∃ f, e' = { e with fields := e.fields ++ (fields ++ [f]) } ∧ fieldOf child = .ok f := by
    intro fields child e' h
    simp only [withField, bind_eq_ok, atNode_eq_ok] at h
    obtain ⟨f, hf, hadd⟩ := h
    refine ⟨f, ?_, hf⟩
    rw [Entity.addField_eq_ok hadd, List.append_assoc]
  have hstart : e = { e with fields := e.fields ++ [] } := by rw [List.append_nil]
  exact foldlM_collects hstep hstart h

/-- So do indices. -/
theorem indices_of_foldlM {unique : Bool} {nodes : List Node} {e e' : Entity}
    (h : nodes.foldlM (withIndex unique) e = .ok e') :
    ∃ indices, e' = { e with indices := e.indices ++ indices } ∧
      List.Forall₂ (fun child index => indexOf unique child = .ok index) nodes indices := by
  have hstep : ∀ indices child e',
      withIndex unique { e with indices := e.indices ++ indices } child = .ok e' →
      ∃ index, e' = { e with indices := e.indices ++ (indices ++ [index]) } ∧
        indexOf unique child = .ok index := by
    intro indices child e' h
    simp only [withIndex, bind_eq_ok, atNode_eq_ok] at h
    obtain ⟨index, hindex, hadd⟩ := h
    refine ⟨index, ?_, hindex⟩
    rw [Entity.addIndex_eq_ok hadd, List.append_assoc]
  have hstart : e = { e with indices := e.indices ++ [] } := by rw [List.append_nil]
  exact foldlM_collects hstep hstart h

/-- Relations get their ids when they are added. -/
theorem relations_of_foldlM {nodes : List Node} {e e' : Entity}
    (h : nodes.foldlM withRelation e = .ok e') :
    ∃ relations, e' = { e with relations := e.relations ++ relations } ∧
      List.Forall₂ (fun child r => ∃ r' id, relationOf child = .ok r' ∧ r = { r' with id := id })
        nodes relations := by
  have hstep : ∀ relations child e',
      withRelation { e with relations := e.relations ++ relations } child = .ok e' →
      ∃ r, e' = { e with relations := e.relations ++ (relations ++ [r]) } ∧
        ∃ r' id, relationOf child = .ok r' ∧ r = { r' with id := id } := by
    intro relations child e' h
    simp only [withRelation, bind_eq_ok] at h
    obtain ⟨r, hr, h⟩ := h
    injection h with h
    rw [Entity.addRelation, List.append_assoc] at h
    exact ⟨_, h.symm, r, _, hr, rfl⟩
  have hstart : e = { e with relations := e.relations ++ [] } := by rw [List.append_nil]
  exact foldlM_collects hstep hstart h

/-- An entity starts with its attributes alone. -/
theorem headOf_eq_ok {e : Entity} (hn : n.Reads v) (h : headOf n = .ok e) :
    (∃ s, v.Says "name" s ∧ e.name = Text.studly s) ∧
      (v.member? "schema" = none → e.schema = none) ∧ e.vendor.Keyed ∧
      e.fields = [] ∧ e.relations = [] ∧ e.indices = [] := by
  simp only [headOf, bind_eq_ok] at h
  obtain ⟨name, hname, tableName, -, schema, hschema, namespaceName, -, skipSql, -, readOnly, -,
    isAbstract, -, isCrossRef, -, description, -, identifierQuoting, -, heavyIndexing, -, vendor,
    hvendor, idMethod, -, h⟩ := h
  injection h with h
  subst h
  refine ⟨⟨name, hn.requiredText hname, rfl⟩, fun habsent => ?_, keyed_of_vendorsOf hvendor, rfl,
    rfl, rfl⟩
  rw [Node.scalar?, hn.get?, habsent] at hschema
  injection hschema with hschema
  exact hschema.symm

/-- What is read from the object of an entity, before the entity is registered. -/
theorem readFrom_of_entityOf {e : Entity} (hn : n.Reads v) (h : entityOf n = .ok e) :
    e.ReadFrom none v := by
  obtain ⟨draft, hdraft⟩ := buildable_of_entityOf h
  have hwell : e.WellFormed := Entity.wellFormed_of_build hdraft
  simp only [entityOf, bind_eq_ok] at h
  obtain ⟨head, hhead, fieldNodes, hfieldNodes, h⟩ := h
  split at h
  · cases h
  · rename_i hsome
    simp only [bind_eq_ok] at h
    obtain ⟨e₁, h₁, plainNodes, hplainNodes, uniqueNodes, huniqueNodes, e₂, h₂, e₃, h₃,
      relationNodes, hrelationNodes, h₄⟩ := h
    obtain ⟨hname, hschema, hvendor, hfieldsNil, hrelationsNil, hindicesNil⟩ :=
      headOf_eq_ok hn hhead
    obtain ⟨fields, rfl, hfields⟩ := fields_of_foldlM h₁
    obtain ⟨plain, rfl, hplain⟩ := indices_of_foldlM h₂
    obtain ⟨unique, rfl, hunique⟩ := indices_of_foldlM h₃
    obtain ⟨relations, rfl, hrelations⟩ := relations_of_foldlM h₄
    have hne : fields ≠ [] := by
      intro hnil
      rw [hnil, List.forall₂_nil_right_iff] at hfields
      exact hsome (by rw [hfields]; rfl)
    have hread : ∀ w child r, child.Reads w →
        (∃ r' id, relationOf child = .ok r' ∧ r = { r' with id := id }) →
        Relation.ReadFrom w r := by
      rintro w child r hchild ⟨r', id, hr, rfl⟩
      exact (readFrom_of_relationOf hchild hr).withId id
    refine {
      name := hname
      schema := hschema
      wellFormed := hwell
      fields_ne := ?_
      fields := ?_
      indices := ⟨plain, unique, ?_,
        .of_children hn hplainNodes (fun _ _ _ => readFrom_of_indexOf) hplain,
        .of_children hn huniqueNodes (fun _ _ _ => readFrom_of_indexOf) hunique⟩
      relations := ?_
      vendor := hvendor }
    · show head.fields ++ fields ≠ []
      rwa [hfieldsNil, List.nil_append]
    · show v.Gives "fields" "field" Field.ReadFrom (head.fields ++ fields)
      rw [hfieldsNil, List.nil_append]
      exact .of_children hn hfieldNodes (fun _ _ _ => readFrom_of_fieldOf) hfields
    · show head.indices ++ plain ++ unique = plain ++ unique
      rw [hindicesNil, List.nil_append]
    · show v.Gives "relations" "relation" Relation.ReadFrom (head.relations ++ relations)
      rw [hrelationsNil, List.nil_append]
      exact .of_children hn hrelationNodes hread hrelations

-- ── Databases ─────────────────────────────────────────────────────────────────

/-- Numbering gives relations new ids and changes nothing else about them. -/
theorem forall₂_numberFrom (owner : EntityId) (i : Nat) (rs : List Relation) :
    List.Forall₂ (fun r r' => ∃ id, r' = { r with id := id }) rs
      (Database.numberFrom owner i rs) := by
  induction rs generalizing i with
  | nil => exact .nil
  | cons r rs ih => exact .cons ⟨_, rfl⟩ (ih (i + 1))

/-- An entity that is registered keeps what was read, and inherits its schema if it has none. -/
theorem readFrom_of_registered {e : Entity} (h : e.ReadFrom none v) (db : Database) (i : Nat) :
    (Database.placed (db.inherited e) i).ReadFrom db.schema v where
  name := h.name
  schema := by
    intro habsent
    show e.schema.or db.schema = db.schema
    rw [h.schema habsent, Option.none_or]
  wellFormed := h.wellFormed.congr rfl rfl
  fields_ne := h.fields_ne
  fields := h.fields
  indices := h.indices
  relations := by
    refine forall₂_trans h.relations (forall₂_numberFrom (some i) 0 e.relations) ?_
    rintro w r _ ⟨hobject, hr⟩ ⟨id, rfl⟩
    exact ⟨hobject, hr.withId id⟩
  vendor := h.vendor

/-- An entity that is registered has a name, no other entity has its full name, and it is placed
    behind all others with what it inherits. -/
theorem withEntity_eq_ok {db db' : Database} (h : withEntity db n = .ok db') :
    ∃ e, entityOf n = .ok e ∧
      (e.name ≠ "" ∧ ∀ e' ∈ db.entities, e'.fullName ≠ (db.inherited e).fullName) ∧
      db' = { db with
        entities := db.entities ++ [Database.placed (db.inherited e) db.entities.length]
        finalized := false } := by
  simp only [withEntity, bind_eq_ok, atNode_eq_ok] at h
  obtain ⟨e, he, ⟨added, id⟩, hadd, h⟩ := h
  injection h with h
  subst h
  exact ⟨e, he, Database.addEntity_map_eq_ok.mp (congrArg (Except.map Prod.fst) hadd)⟩

/-- Entities go behind those that are there, in order, each under a name. -/
theorem entities_of_foldlM {nodes : List Node} {db db' : Database} (hflag : db.finalized = false)
    (h : nodes.foldlM withEntity db = .ok db') :
    ∃ entities, db' = { db with entities := db.entities ++ entities, finalized := false } ∧
      List.Forall₂ (fun child e => ∃ e' i, entityOf child = .ok e' ∧ e'.name ≠ "" ∧
        e = Database.placed (db.inherited e') i) nodes entities := by
  have hstep : ∀ entities child db',
      withEntity { db with entities := db.entities ++ entities, finalized := false } child =
        .ok db' →
      ∃ e, db' = { db with
          entities := db.entities ++ (entities ++ [e])
          finalized := false } ∧
        ∃ e' i, entityOf child = .ok e' ∧ e'.name ≠ "" ∧
          e = Database.placed (db.inherited e') i := by
    intro entities child db' h
    obtain ⟨e, he, ⟨hname, -⟩, hdb'⟩ := withEntity_eq_ok h
    refine ⟨Database.placed (db.inherited e) (db.entities ++ entities).length, ?_, e, _, he, hname,
      rfl⟩
    rw [hdb', ← List.append_assoc]
    rfl
  have hstart : db = { db with entities := db.entities ++ [], finalized := false } := by
    rw [List.append_nil, ← hflag]
  exact foldlM_collects hstep hstart h

/-- No entity is registered under a full name that is taken. -/
theorem distinct_of_withEntity {db db' : Database} (hdb : (db.entities.map (·.fullName)).Nodup)
    (h : withEntity db n = .ok db') : (db'.entities.map (·.fullName)).Nodup := by
  obtain ⟨e, -, ⟨-, hfresh⟩, rfl⟩ := withEntity_eq_ok h
  rw [List.map_append]
  refine List.nodup_append.mpr ⟨hdb, List.pairwise_singleton _ _, ?_⟩
  intro name hname name' hname' heq
  obtain ⟨e', he', rfl⟩ := List.mem_map.mp hname
  rw [List.mem_singleton.mp hname'] at heq
  exact hfresh e' he' heq

/-- The node of the database shows the root's member of that name, or else the root. -/
theorem reads_databaseNode (h : databaseNode v = .ok n) :
    n.Reads ((v.member? "database").getD v) := by
  simp only [databaseNode, bind_eq_ok] at h
  obtain ⟨root, hroot, h⟩ := h
  rw [(Node.reads_of hroot).get?] at h
  cases hinner : v.member? "database" with
  | none =>
      rw [hinner] at h
      injection h with h
      exact h ▸ Node.reads_of hroot
  | some inner =>
      rw [hinner] at h
      exact Node.reads_of h

/-- A database starts with its attributes alone. -/
theorem databaseHeadOf_eq_ok {db : Database} (hn : n.Reads v) (h : databaseHeadOf n = .ok db) :
    v.Says "name" db.name ∧ (db.defaultIdMethod = .native ∨ db.defaultIdMethod = .none) ∧
      db.vendor.Keyed ∧ db.entities = [] ∧ db.finalized = false := by
  simp only [databaseHeadOf, bind_eq_ok] at h
  obtain ⟨name, hname, schema, -, namespaceName, -, identifierQuoting, -, heavyIndexing, -, vendor,
    hvendor, idMethod, hmethod, h⟩ := h
  injection h with h
  subst h
  exact ⟨hn.requiredText hname, getD_of_idMethod? hmethod, keyed_of_vendorsOf hvendor, rfl, rfl⟩

/-- A database that is loaded is well-formed, and its parts are read from the objects of the
    document in their order. -/
theorem readFrom_of_load {v : Json} {db : Database} (h : load v = .ok db) :
    db.ReadFrom ((v.member? "database").getD v) := by
  simp only [load, databaseOf, bind_eq_ok] at h
  obtain ⟨n, hnode, head, hhead, nodes, hnodes, h⟩ := h
  have hn := reads_databaseNode hnode
  split at h
  · cases h
  · rename_i hsome
    obtain ⟨hname, hmethod, hvendor, hempty, hflag⟩ := databaseHeadOf_eq_ok hn hhead
    have hnone : (head.entities.map (·.fullName)).Nodup := by
      rw [hempty]
      exact List.nodup_nil
    have hdistinct := foldlM_keeps (fun _ _ _ => distinct_of_withEntity) hnone h
    have hread : ∀ w child e, child.Reads w → (∃ e' i, entityOf child = .ok e' ∧ e'.name ≠ "" ∧
        e = Database.placed (head.inherited e') i) → Entity.ReadFrom head.schema w e := by
      rintro w child _ hchild ⟨e', i, he, -, rfl⟩
      exact readFrom_of_registered (readFrom_of_entityOf hchild he) head i
    obtain ⟨entities, rfl, hentities⟩ := entities_of_foldlM hflag h
    refine ⟨hname, ?_, ?_, ?_, hdistinct, hmethod, hvendor⟩
    · show head.entities ++ entities ≠ []
      rw [hempty, List.nil_append]
      rintro rfl
      rw [List.forall₂_nil_right_iff] at hentities
      exact hsome (by rw [hentities]; rfl)
    · show Json.Gives _ "entities" "entity" (Entity.ReadFrom head.schema)
        (head.entities ++ entities)
      rw [hempty, List.nil_append]
      exact .of_children hn hnodes hread hentities
    · intro e he
      rw [hempty, List.nil_append] at he
      obtain ⟨child, -, e', i, -, hnamed, rfl⟩ := forall₂_mem_right hentities he
      exact hnamed

/-- A wrapped document in mixed case. Collections stand in both spellings, as arrays and as single
    objects. -/
def orders : Json :=
  .object [("Database", .object [
    ("NAME", .text "shop"), ("schema", .text "sales"), ("defaultIdMethod", .text "None"),
    ("vendors", .array [
      .object [("type", .text "MySQL"), ("parameter", .object [
        ("name", .text "Engine"), ("value", .text "InnoDB")])],
      .object [("type", .text "mysql")]]),
    ("Entities", .array [
      .object [("name", .text "customer"), ("schema", .text "people"),
        ("fields", .array [
          .object [("name", .text "id"), ("type", .text "integer"), ("primaryKey", .bool true),
            ("autoIncrement", .text "yes")],
          .object [("name", .text "state"), ("type", .text "enum"),
            ("valueSet", .text "new, known"), ("default", .text "new")]]),
        ("uniques", .object [("unique-field", .object [("name", .text "state")])])],
      .object [("name", .text "sales_order"), ("schema", .null),
        ("field", .object [("name", .text "customer_id"), ("type", .text "integer")]),
        ("index", .object [("index-fields", .array [.object [("name", .text "customer_id")]])]),
        ("relation", .object [("target", .text "customer"), ("onDelete", .text "setnull"),
          ("reference", .object [("local", .text "customer_id"), ("foreign", .text "id")])])]])])]

/-- Both entities of the document are there, the second one with the schema of the database, and
    what is said of loaded databases holds. -/
theorem readFrom_of_load_orders :
    ∃ db, load orders = .ok db ∧
      db.entities.map (·.fullName) = ["people.Customer", "sales.SalesOrder"] ∧
      db.ReadFrom ((orders.member? "database").getD orders) := by
  have hrun : (match load orders with
      | .ok db => decide (db.entities.map (·.fullName) = ["people.Customer", "sales.SalesOrder"])
      | .error _ => false) = true := by decide +kernel
  cases hload : load orders with
  | error e =>
      rw [hload] at hrun
      exact nomatch hrun
  | ok db =>
      rw [hload] at hrun
      exact ⟨db, rfl, of_decide_eq_true hrun, readFrom_of_load hload⟩

end Document

end SchemaDdl
