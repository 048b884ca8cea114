import SchemaDdl.Proofs.DocumentPaths
import SchemaDdl.Proofs.Loading

/-!
# Failures of loading

Whatever is wrong with a document, the error that loading reports names a place of it. Every node
stands at the place that its path names, a defect of a member is a place below its node, and what
the rules of a schema refuse is reported with the node of the refused object. So the path of an
error can be followed from the root, up to a last key that may be what is missing.

* **`Error.PointsInto`**, **`Document.Node.StandsIn`**: errors and nodes with a place in a document.
* **`Document.Traced`**: a chain that fails at places of the document only.
* **`Document.Node.StandsIn.children`**: the nodes of a collection stand in the document.
* **`Document.path_of_load_error`**: all failures of loading point into the document.
-/

namespace SchemaDdl

/-- The path of an error can be read and leads to a place of a document. -/
def Error.PointsInto (e : Error) (v : Json) : Prop :=
  ∃ steps, e.path? = some ⟨"$", steps⟩ ∧ (∀ step ∈ steps, step.Plain) ∧ v.Locates steps

namespace Document

-- ── Chains ────────────────────────────────────────────────────────────────────

/-- A chain that gives an answer of some kind, or fails at a place of the document. -/
inductive Traced (v : Json) {α : Type} (P : α → Prop) : Except Error α → Prop where
  | ok {a : α} : P a → Traced v P (.ok a)
  | error {e : Error} : e.PointsInto v → Traced v P (.error e)

namespace Traced

variable {v : Json} {α β : Type} {P : α → Prop} {Q : β → Prop}

theorem done {a : α} : Traced v (fun _ => True) (.ok a) := .ok trivial

/-- An answer of one kind is one of any wider kind. -/
theorem imp {P' : α → Prop} {x : Except Error α} (h : Traced v P x) (himp : ∀ a, P a → P' a) :
    Traced v P' x := by
  cases h with
  | ok ha => exact .ok (himp _ ha)
  | error he => exact .error he

/-- A chain is traced if its first step is, and if every answer of this step goes on to a traced
    chain. -/
theorem bind {x : Except Error α} {next : α → Except Error β} (h : Traced v P x)
    (hnext : ∀ a, P a → Traced v Q (next a)) : Traced v Q (x >>= next) := by
  cases h with
  | ok ha => exact hnext _ ha
  | error he => exact .error he

/-- Going through a list is traced if going to each item is. -/
theorem mapM {f : α → Except Error β} {xs : List α} (hxs : ∀ a ∈ xs, P a)
    (hf : ∀ a, P a → Traced v (fun _ => True) (f a)) :
    Traced v (fun _ => True) (xs.mapM f) := by
  induction xs with
  | nil => exact .done
  | cons a xs ih =>
      rw [List.mapM_cons]
      refine (hf a (hxs a List.mem_cons_self)).bind fun _ _ => ?_
      exact (ih fun a' ha' => hxs a' (List.mem_cons_of_mem a ha')).bind fun _ _ => .done

/-- The same with a state that is passed on. -/
theorem foldlM {f : β → α → Except Error β} {xs : List α} (hxs : ∀ a ∈ xs, P a)
    (hf : ∀ b a, P a → Traced v (fun _ => True) (f b a)) (b : β) :
    Traced v (fun _ => True) (xs.foldlM f b) := by
  induction xs generalizing b with
  | nil => exact .done
  | cons a xs ih =>
      rw [List.foldlM_cons]
      refine (hf b a (hxs a List.mem_cons_self)).bind fun b' _ => ?_
      exact ih (fun a' ha' => hxs a' (List.mem_cons_of_mem a ha')) b'

end Traced

namespace Node

/-- A node whose path leads to a place of a document and that shows the object there. -/
structure StandsAt (n : Node) (v : Json) (steps : List PathStep) (w : Json) : Prop where
  path : n.path = ⟨"$", steps⟩
  plain : ∀ step ∈ steps, step.Plain
  at? : v.at? steps = some w
  reads : n.Reads w

/-- A node that stands at some place of a document. -/
def StandsIn (n : Node) (v : Json) : Prop := ∃ steps w, n.StandsAt v steps w

variable {n : Node} {v : Json} {key : String}

/-- An error at a node points into the document. -/
theorem StandsIn.here (hn : n.StandsIn v) {e : Error} (he : e.path? = some n.path) :
    e.PointsInto v := by
  obtain ⟨steps, w, hat⟩ := hn
  exact ⟨steps, hat.path ▸ he, hat.plain, .inl ⟨w, hat.at?⟩⟩

/-- So does a defect of a member, whether the member is there or not. -/
theorem StandsIn.defect (hn : n.StandsIn v) (hkey : PathStep.PlainText key) (d : Defect) :
    (n.defect key d).PointsInto v := by
  obtain ⟨steps, w, hat⟩ := hn
  have hplain : ∀ step ∈ steps ++ [PathStep.key key], step.Plain :=
    PathStep.plain_concat hat.plain hkey
  refine ⟨steps ++ [.key key], ?_, hplain, Json.locates_key hat.at? hat.reads.isObject key⟩
  show some (n.path.key key) = _
  rw [hat.path]
  rfl

-- ── Scalars ───────────────────────────────────────────────────────────────────

/-- Reading a member goes through or finds a defect of this member. -/
inductive Blames (n : Node) (key : String) {α : Type} : Except Error α → Prop where
  | ok {a : α} : Blames n key (.ok a)
  | defect (d : Defect) : Blames n key (.error (n.defect key d))

/-- What is made of a member afterwards blames nothing else. -/
theorem Blames.map {α β : Type} {x : Except Error α} (h : n.Blames key x) (f : α → β) :
    n.Blames key (x.map f) := by
  cases h with
  | ok => exact .ok
  | defect d => exact .defect d

theorem Blames.of_error {α β : Type} {x : Except Error α} {e : Error} (h : n.Blames key x)
    (hx : x = .error e) : n.Blames key (.error e : Except Error β) := by
  subst hx
  cases h with
  | defect d => exact .defect d

/-- A reading that blames a member of a node in the document is traced. -/
theorem StandsIn.traced (hn : n.StandsIn v) {α : Type} {x : Except Error α} (h : n.Blames key x)
    (hkey : PathStep.PlainText key) : Traced v (fun _ => True) x := by
  cases h with
  | ok => exact .done
  | defect d => exact .error (hn.defect hkey d)

theorem blames_text? (n : Node) (key : String) : n.Blames key (n.text? key) := by
  rw [text?]
  split
  · exact .ok
  · exact .ok
  · exact .defect _

/-- A text that is absent or blank is a defect of the member that should hold it. -/
theorem blames_requiredText (n : Node) (key : String) : n.Blames key (n.requiredText key) := by
  rw [requiredText]
  split
  · rename_i e hread
    exact (n.blames_text? key).of_error hread
  · split
    · exact .defect .blank
    · exact .ok
  · exact .defect .absent

theorem blames_scalar? (n : Node) (key : String) : n.Blames key (n.scalar? key) := by
  rw [scalar?]
  split
  · exact .ok
  · exact .ok
  · exact .ok
  · exact .ok
  · exact .defect _

theorem blames_flag? (n : Node) (key : String) : n.Blames key (n.flag? key) := by
  rw [flag?]
  split
  · exact .ok
  · exact .ok
  · exact .ok
  · exact .ok
  · exact .defect _

theorem blames_flag (n : Node) (key : String) (default : Bool) :
    n.Blames key (n.flag key default) :=
  (n.blames_flag? key).map _

theorem blames_count? (n : Node) (key : String) : n.Blames key (n.count? key) := by
  rw [count?]
  split
  · exact .ok
  · split
    · exact .ok
    · exact .defect _

/-- A list is blamed as a whole for an item that is no text. -/
theorem blames_stringItems (n : Node) (key : String) (items : List Json) :
    n.Blames key (n.stringItems key items) := by
  induction items with
  | nil => exact .ok
  | cons item items ih =>
      rw [stringItems.eq_def]
      split
      · exact .ok
      · rename_i heq
        injection heq with _ hrest
        exact hrest ▸ ih.map _
      · exact .defect _

theorem blames_list (n : Node) (key : String) : n.Blames key (n.list key) := by
  rw [list]
  split
  · exact .ok
  · exact n.blames_stringItems key _
  · exact (n.blames_scalar? key).map _

/-- A word that is not allowed is a defect of its member. -/
theorem blames_oneOf? (n : Node) (key : String) (allowed : List String) :
    n.Blames key (n.oneOf? key allowed) := by
  rw [oneOf?]
  split
  · rename_i e hread
    exact (n.blames_scalar? key).of_error hread
  · exact .ok
  · dsimp only
    split
    · exact .ok
    · exact .defect _

-- ── Collections ───────────────────────────────────────────────────────────────

/-- A value that should be an object has a node that stands where the value does. -/
theorem traced_of {steps : List PathStep} {w : Json} (hplain : ∀ step ∈ steps, step.Plain)
    (hat : v.at? steps = some w) : Traced v (·.StandsAt v steps w) (Node.of ⟨"$", steps⟩ w) := by
  cases w with
  | object members => exact .ok ⟨rfl, hplain, hat, reads_object _ members⟩
  | _ => exact .error ⟨steps, rfl, hplain, .inl ⟨_, hat⟩⟩

/-- The nodes of items one after the other, as a chain. -/
theorem itemsFrom_cons (path : DocumentPath) (i : Nat) (w : Json) (items : List Json) :
    itemsFrom path i (w :: items) = (do
      let child ← Node.of (path.item i) w
      let children ← itemsFrom path (i + 1) items
      .ok (child :: children)) := by
  rw [itemsFrom]
  cases Node.of (path.item i) w with
  | error e => rfl
  | ok child =>
      dsimp only [bind, Except.bind]
      cases itemsFrom path (i + 1) items with
      | error e => rfl
      | ok children => rfl

/-- The items of an array stand behind their positions in it. -/
theorem traced_itemsFrom {steps : List PathStep} (hplain : ∀ step ∈ steps, step.Plain) {i : Nat}
    {items : List Json} (hitems : ∀ j w, items[j]? = some w →
      v.at? (steps ++ [.item (i + j)]) = some w) :
    Traced v (fun nodes => ∀ child ∈ nodes, child.StandsIn v) (itemsFrom ⟨"$", steps⟩ i items) := by
  induction items generalizing i with
  | nil => exact .ok fun _ hchild => nomatch hchild
  | cons w items ih =>
      have hfirst : Traced v (·.StandsAt v (steps ++ [.item i]) w)
          (Node.of ⟨"$", steps ++ [.item i]⟩ w) :=
        traced_of (PathStep.plain_concat hplain trivial) (hitems 0 w rfl)
      -- the rest is numbered from the next position on, so its places are one further
      have hrest : ∀ j w', items[j]? = some w' →
          v.at? (steps ++ [.item (i + 1 + j)]) = some w' := by
        intro j w' hw'
        rw [Nat.add_right_comm, Nat.add_assoc]
        exact hitems (j + 1) w' hw'
      rw [itemsFrom_cons]
      exact hfirst.bind fun child hchild => (ih hrest).bind fun children hchildren =>
        .ok (List.forall_mem_cons.mpr ⟨⟨_, w, hchild⟩, hchildren⟩)

/-- The items of an array stand behind their positions, and a single object stands where the
    collection does. A value that is neither is a defect of the collection. -/
theorem traced_collection (hn : n.StandsIn v) (hkey : PathStep.PlainText key) {found : Json}
    (hfound : n.get? key = some found) :
    Traced v (fun nodes => ∀ child ∈ nodes, child.StandsIn v) (n.collection key found) := by
  have hdefect := hn.defect hkey (.notObjects found)
  obtain ⟨steps, w, hat⟩ := hn
  have hplain : ∀ step ∈ steps ++ [PathStep.key key], step.Plain :=
    PathStep.plain_concat hat.plain hkey
  have hthere : v.at? (steps ++ [.key key]) = some found := by
    rw [Json.at?_concat hat.at?, Json.next?, ← hat.reads.get?, hfound]
  have hpath : n.path.key key = ⟨"$", steps ++ [.key key]⟩ := by
    rw [hat.path]
    rfl
  cases found with
  | array items =>
      rw [collection, hpath]
      refine traced_itemsFrom hplain fun j w' hw' => ?_
      rw [Json.at?_concat hthere, Nat.zero_add]
      exact hw'
  | object members =>
      refine .ok fun child hchild => ?_
      rw [List.mem_singleton.mp hchild]
      exact ⟨_, _, hpath, hplain, hthere, reads_object _ members⟩
  | _ => exact .error hdefect

/-- The nodes of a collection stand in the document, or one of its values has the wrong shape. -/
theorem StandsIn.children (hn : n.StandsIn v) (plural singular : String)
    (hplural : PathStep.PlainText plural)
    (hsingular : PathStep.PlainText singular) :
    Traced v (fun nodes => ∀ child ∈ nodes, child.StandsIn v) (n.children plural singular) := by
  rw [Node.children]
  split
  · rename_i found _ hfound
    exact traced_collection hn hplural hfound
  · rename_i found _ hfound
    exact traced_collection hn hsingular hfound
  · exact .ok fun _ hchild => absurd hchild List.not_mem_nil

end Node

-- ── Parts of entities ─────────────────────────────────────────────────────────

variable {n : Node} {v : Json}

/-- An id method that is not known is a defect of its member. -/
theorem traced_idMethod? (hn : n.StandsIn v) (key : String) (allowed : List String)
    (hkey : PathStep.PlainText key) :
    Traced v (fun _ => True) (idMethod? n key allowed) := by
  refine (hn.traced (n.blames_oneOf? key allowed) hkey).bind fun word _ => ?_
  cases word with
  | none => exact .done
  | some word =>
      dsimp only
      split
      · exact .done
      · exact .error (hn.defect hkey _)

theorem traced_parameterOf (hn : n.StandsIn v) (block : VendorBlock) :
    Traced v (fun _ => True) (parameterOf block n) :=
  .bind (hn.traced (n.blames_requiredText "name") (by decide)) fun _ _ =>
  .bind (hn.traced (n.blames_scalar? "value") (by decide)) fun _ _ => .done

theorem traced_vendorOf (hn : n.StandsIn v) (blocks : VendorBlocks) :
    Traced v (fun _ => True) (vendorOf blocks n) :=
  .bind (hn.traced (n.blames_requiredText "type") (by decide)) fun _ _ =>
  .bind (hn.children "parameters" "parameter" (by decide) (by decide)) fun _ hchildren =>
  .bind (.foldlM hchildren (fun block _ hchild => traced_parameterOf hchild block) _) fun _ _ =>
  .done

theorem traced_vendorsOf (hn : n.StandsIn v) : Traced v (fun _ => True) (vendorsOf n) :=
  .bind (hn.children "vendors" "vendor" (by decide) (by decide)) fun _ hchildren =>
  .foldlM hchildren (fun blocks _ hchild => traced_vendorOf hchild blocks) _

/-- So is a column type that is not known. -/
theorem traced_typeOf (hn : n.StandsIn v) : Traced v (fun _ => True) (typeOf n) := by
  refine (hn.traced (n.blames_scalar? "type") (by decide)).bind fun name _ => ?_
  cases name with
  | none => exact .done
  | some name =>
      dsimp only
      split
      · exact .done
      · exact .error (hn.defect (by decide) _)

theorem traced_literalDefault? (hn : n.StandsIn v) :
    Traced v (fun _ => True) (literalDefault? n) := by
  refine (hn.traced (n.blames_scalar? "default") (by decide)).bind fun value _ => ?_
  cases value with
  | some s => exact .done
  | none => exact hn.traced (n.blames_scalar? "defaultValue") (by decide)

/-- Two defaults are a defect of the field itself. -/
theorem traced_defaultOf? (hn : n.StandsIn v) : Traced v (fun _ => True) (defaultOf? n) := by
  refine (traced_literalDefault? hn).bind fun value _ => ?_
  refine (hn.traced (n.blames_scalar? "defaultExpr") (by decide)).bind fun expression _ => ?_
  split
  · exact .error (hn.here rfl)
  · exact .done
  · exact .done
  · exact .done

/-- Reading a field goes member by member, and an error is traced to the first wrong one. -/
theorem traced_fieldOf (hn : n.StandsIn v) : Traced v (fun _ => True) (fieldOf n) :=
  .bind (traced_typeOf hn) fun _ _ =>
  .bind (hn.traced (n.blames_requiredText "name") (by decide)) fun _ _ =>
  .bind (hn.traced (n.blames_flag "primaryKey" false) (by decide)) fun _ _ =>
  .bind (hn.traced (n.blames_flag "required" false) (by decide)) fun _ _ =>
  .bind (hn.traced (n.blames_flag "autoIncrement" false) (by decide)) fun _ _ =>
  .bind (hn.traced (n.blames_count? "size") (by decide)) fun _ _ =>
  .bind (hn.traced (n.blames_count? "scale") (by decide)) fun _ _ =>
  .bind (hn.traced (n.blames_scalar? "sqlType") (by decide)) fun _ _ =>
  .bind (hn.traced (n.blames_scalar? "description") (by decide)) fun _ _ =>
  .bind (hn.traced (n.blames_flag "lazyLoad" false) (by decide)) fun _ _ =>
  .bind (hn.traced (n.blames_flag "primaryString" false) (by decide)) fun _ _ =>
  .bind (hn.traced (n.blames_list "valueSet") (by decide)) fun _ _ =>
  .bind (traced_vendorsOf hn) fun _ _ =>
  .bind (traced_defaultOf? hn) fun _ _ => .done

theorem traced_indexFieldOf (hn : n.StandsIn v) : Traced v (fun _ => True) (indexFieldOf n) :=
  .bind (hn.traced (n.blames_requiredText "name") (by decide)) fun _ _ =>
  .bind (hn.traced (n.blames_count? "size") (by decide)) fun _ _ => .done

theorem traced_indexOf (hn : n.StandsIn v) (unique : Bool) :
    Traced v (fun _ => True) (indexOf unique n) := by
  rw [indexOf_eq]
  refine .bind (P := fun nodes => ∀ child ∈ nodes, child.StandsIn v) ?_ fun _ hchildren => ?_
  · cases unique with
    | false => exact hn.children "index-fields" "index-field" (by decide) (by decide)
    | true => exact hn.children "unique-fields" "unique-field" (by decide) (by decide)
  · exact .bind (.mapM hchildren fun _ hchild => traced_indexFieldOf hchild) fun _ _ =>
      .bind (hn.traced (n.blames_scalar? "name") (by decide)) fun _ _ =>
      .bind (traced_vendorsOf hn) fun _ _ => .done

theorem traced_referenceOf (hn : n.StandsIn v) : Traced v (fun _ => True) (referenceOf n) :=
  .bind (hn.traced (n.blames_requiredText "local") (by decide)) fun _ _ =>
  .bind (hn.traced (n.blames_requiredText "foreign") (by decide)) fun _ _ => .done

/-- The pairs of a relation are traced to their own objects. -/
theorem traced_relationOf (hn : n.StandsIn v) : Traced v (fun _ => True) (relationOf n) :=
  .bind (hn.traced (n.blames_requiredText "target") (by decide)) fun _ _ =>
  .bind (hn.traced (n.blames_scalar? "name") (by decide)) fun _ _ =>
  .bind (hn.traced (n.blames_scalar? "field") (by decide)) fun _ _ =>
  .bind (hn.traced (n.blames_scalar? "refField") (by decide)) fun _ _ =>
  .bind (hn.traced (n.blames_scalar? "refName") (by decide)) fun _ _ =>
  .bind (hn.traced (n.blames_scalar? "foreignSchema") (by decide)) fun _ _ =>
  .bind (hn.traced (n.blames_flag "skipSql" false) (by decide)) fun _ _ =>
  .bind (traced_vendorsOf hn) fun _ _ =>
  .bind (hn.traced (n.blames_oneOf? "onUpdate" actionWords) (by decide)) fun _ _ =>
  .bind (hn.traced (n.blames_oneOf? "onDelete" actionWords) (by decide)) fun _ _ =>
  .bind (hn.traced (n.blames_oneOf? "defaultJoin" joinWords) (by decide)) fun _ _ =>
  .bind (hn.children "references" "reference" (by decide) (by decide)) fun _ hchildren =>
  .bind (.mapM hchildren fun _ hchild => traced_referenceOf hchild) fun _ _ => .done

-- ── Entities and databases ────────────────────────────────────────────────────

/-- What a rule of the schema refuses is reported at the node, with the rule as the cause. -/
theorem traced_atNode (hn : n.StandsIn v) {α : Type} (message : String)
    (result : Except Violation α) : Traced v (fun _ => True) (atNode n message result) := by
  cases result with
  | ok a => exact .done
  | error violation => exact .error (hn.here rfl)

theorem traced_withField (hn : n.StandsIn v) (e : Entity) :
    Traced v (fun _ => True) (withField e n) :=
  .bind (traced_fieldOf hn) fun _ _ => traced_atNode hn _ _

theorem traced_withIndex (hn : n.StandsIn v) (unique : Bool) (e : Entity) :
    Traced v (fun _ => True) (withIndex unique e n) :=
  .bind (traced_indexOf hn unique) fun _ _ => traced_atNode hn _ _

theorem traced_withRelation (hn : n.StandsIn v) (e : Entity) :
    Traced v (fun _ => True) (withRelation e n) :=
  .bind (traced_relationOf hn) fun _ _ => .done

theorem traced_headOf (hn : n.StandsIn v) : Traced v (fun _ => True) (headOf n) :=
  .bind (hn.traced (n.blames_requiredText "name") (by decide)) fun _ _ =>
  .bind (hn.traced (n.blames_scalar? "tableName") (by decide)) fun _ _ =>
  .bind (hn.traced (n.blames_scalar? "schema") (by decide)) fun _ _ =>
  .bind (hn.traced (n.blames_scalar? "namespace") (by decide)) fun _ _ =>
  .bind (hn.traced (n.blames_flag "skipSql" false) (by decide)) fun _ _ =>
  .bind (hn.traced (n.blames_flag "readOnly" false) (by decide)) fun _ _ =>
  .bind (hn.traced (n.blames_flag "abstract" false) (by decide)) fun _ _ =>
  .bind (hn.traced (n.blames_flag "isCrossRef" false) (by decide)) fun _ _ =>
  .bind (hn.traced (n.blames_scalar? "description") (by decide)) fun _ _ =>
  .bind (hn.traced (n.blames_flag? "identifierQuoting") (by decide)) fun _ _ =>
  .bind (hn.traced (n.blames_flag? "heavyIndexing") (by decide)) fun _ _ =>
  .bind (traced_vendorsOf hn) fun _ _ =>
  .bind (traced_idMethod? hn "idMethod" idWords (by decide)) fun _ _ => .done

/-- An entity without fields is a defect of the collection; a rule that is broken by a field or an
    index is traced to its object. -/
theorem traced_entityOf (hn : n.StandsIn v) : Traced v (fun _ => True) (entityOf n) := by
  refine (traced_headOf hn).bind fun e _ => ?_
  refine (hn.children "fields" "field" (by decide) (by decide)).bind fun fields hfields => ?_
  split
  · exact .error (hn.defect (by decide) .noFields)
  · exact .bind (.foldlM hfields (fun e _ hchild => traced_withField hchild e) e) fun e _ =>
      .bind (hn.children "indices" "index" (by decide) (by decide)) fun _ hindices =>
      .bind (hn.children "uniques" "unique" (by decide) (by decide)) fun _ huniques =>
      .bind (.foldlM hindices (fun e _ hchild => traced_withIndex hchild false e) e) fun e _ =>
      .bind (.foldlM huniques (fun e _ hchild => traced_withIndex hchild true e) e) fun e _ =>
      .bind (hn.children "relations" "relation" (by decide) (by decide)) fun _ hrelations =>
      .foldlM hrelations (fun e _ hchild => traced_withRelation hchild e) e

theorem traced_withEntity (hn : n.StandsIn v) (db : Database) :
    Traced v (fun _ => True) (withEntity db n) :=
  .bind (traced_entityOf hn) fun _ _ =>
  .bind (traced_atNode hn _ _) fun _ _ => .done

theorem traced_databaseHeadOf (hn : n.StandsIn v) : Traced v (fun _ => True) (databaseHeadOf n) :=
  .bind (hn.traced (n.blames_requiredText "name") (by decide)) fun _ _ =>
  .bind (hn.traced (n.blames_scalar? "schema") (by decide)) fun _ _ =>
  .bind (hn.traced (n.blames_scalar? "namespace") (by decide)) fun _ _ =>
  .bind (hn.traced (n.blames_flag? "identifierQuoting") (by decide)) fun _ _ =>
  .bind (hn.traced (n.blames_flag "heavyIndexing" false) (by decide)) fun _ _ =>
  .bind (traced_vendorsOf hn) fun _ _ =>
  .bind (traced_idMethod? hn "defaultIdMethod" defaultIdWords (by decide)) fun _ _ => .done

/-- A database without entities is a defect of the collection, too. -/
theorem traced_databaseOf (hn : n.StandsIn v) : Traced v (fun _ => True) (databaseOf n) := by
  refine (traced_databaseHeadOf hn).bind fun db _ => ?_
  refine (hn.children "entities" "entity" (by decide) (by decide)).bind fun entities hentities => ?_
  split
  · exact .error (hn.defect (by decide) .noEntities)
  · exact .foldlM hentities (fun db _ hchild => traced_withEntity hchild db) db

/-- The node of the database stands at the root or at the root's member of that name. -/
theorem traced_databaseNode (v : Json) : Traced v (·.StandsIn v) (databaseNode v) := by
  have hroot : Traced v (·.StandsAt v [] v) (Node.of .document v) :=
    Node.traced_of (fun _ hstep => nomatch hstep) rfl
  refine hroot.bind fun root hstands => ?_
  split
  · rename_i inner hinner
    have hat : v.at? [.key "database"] = some inner := by
      rw [← List.nil_append [PathStep.key "database"], Json.at?_concat hstands.at?, Json.next?,
        ← hstands.reads.get?, hinner]
    have hplain : ∀ step ∈ [PathStep.key "database"], step.Plain :=
      PathStep.plain_concat hstands.plain (show PathStep.PlainText "database" by decide)
    exact (Node.traced_of hplain hat).imp fun _ hchild => ⟨_, _, hchild⟩
  · exact .ok ⟨_, _, hstands⟩

theorem traced_load (v : Json) : Traced v (fun _ => True) (load v) :=
  (traced_databaseNode v).bind fun _ hn => traced_databaseOf hn

/-- Every failure of loading is about the document, also when a rule of the schema is behind it, and
    its path leads from the root to a value of the document or to a member that is missing from an
    object of the document. -/
theorem path_of_load_error {v : Json} {e : Error} (h : load v = .error e) :
    e.isIngestion = true ∧ ∃ path steps, e.path? = some path ∧
      DocumentPath.read? path.text = some ⟨"$", steps⟩ ∧ v.Locates steps := by
  have hload := traced_load v
  rw [h] at hload
  cases hload with
  | error he =>
      obtain ⟨steps, hpath, hplain, hlocates⟩ := he
      have hroot : PathStep.PlainText "$" := by decide
      refine ⟨?_, _, steps, hpath, DocumentPath.read?_text hroot hplain, hlocates⟩
      rw [Error.isIngestion, hpath]
      rfl

/-- A document with the entity `user` twice, the second time in another case. -/
def usersTwice : Json :=
  .object [("Database", .object [("NAME", .text "app"), ("Entities", .array [
    .object [("name", .text "user"), ("field", .object [("name", .text "id")])],
    .object [("name", .text "User"), ("Fields", .array [.object [("name", .text "id")]])]])])]

/-- The second entity is refused by a rule of the schema, and the path leads to its object. -/
theorem path_of_load_usersTwice :
    ∃ e, load usersTwice = .error e ∧ e.isInvalidSchema = true ∧
      e.path?.map (·.text) = some "$.database.entities[1]" ∧ e.isIngestion = true ∧
      ∃ path steps, e.path? = some path ∧
        DocumentPath.read? path.text = some ⟨"$", steps⟩ ∧ usersTwice.Locates steps := by
  have hrun : ((load usersTwice).map fun _ => ()).mapError
      (fun e => (e.isInvalidSchema, e.path?.map (·.text))) =
        .error (true, some "$.database.entities[1]") := by decide +kernel
  cases hload : load usersTwice with
  | ok db =>
      rw [hload] at hrun
      exact nomatch hrun
  | error e =>
      rw [hload] at hrun
      injection hrun with hseen
      injection hseen with hinvalid hpath
      exact ⟨e, rfl, hinvalid, hpath, path_of_load_error hload⟩

end Document

end SchemaDdl
