import SchemaDdl.Proofs.Loading
import SchemaDdl.Proofs.Spelling

/-!
# Loading and spelling

Loading does not depend on how a document is spelled. Two nodes are `Alike` if their plain members
differ by edits that no reading can see, and if the items of their collections differ by edits.
Every step of loading comes to the same on alike nodes, from parameters up to the database, or fails
on both.

* **`Alike`**, **`alike_of_touched`**: nodes that come from one tree in two spellings.
* **`Alike.scalar?`**, **`Alike.children`** and the like: readings of alike nodes agree.
* **`load_of_sameTree`**: so does loading as a whole.
-/

namespace SchemaDdl.Document

/-- A key that belongs to none of the collections of a kind. -/
def Kind.IsPlain (kind : Kind) (key : String) : Prop :=
  ∀ c ∈ kind.collections, c.hasKey key = false

instance (kind : Kind) (key : String) : Decidable (kind.IsPlain key) :=
  inferInstanceAs (Decidable (∀ c ∈ kind.collections, c.hasKey key = false))

/-- Nodes that differ in what loading does not look at. -/
structure Alike (kind : Kind) (n n' : Node) : Prop where
  plain : ∀ key, kind.IsPlain key → Option.Rel (Touched .plain) (n.get? key) (n'.get? key)
  items : ∀ c ∈ kind.collections, List.Forall₂ (Touched (.node c.items))
    (n.items c.plural c.singular) (n'.items c.plural c.singular)

variable {kind : Kind} {n n' : Node} {v w : Json}

-- ── Roles of members ──────────────────────────────────────────────────────────

/-- Under a key of no collection stands a value, not a node or a list of nodes. -/
theorem member_of_isPlain {key : String} (h : kind.IsPlain key) :
    (Role.node kind).member key = .plain := by
  have hnone : kind.collections.find? (·.hasKey key) = none :=
    List.find?_eq_none.mpr fun c hc => Bool.eq_false_iff.mp (h c hc)
  rw [Role.member, Role.under, hnone]

/-- A key of one collection alone stands for its items. -/
theorem member_of_hasKey {c : Collection} (hc : c ∈ kind.collections) {key : String}
    (hkey : c.hasKey key = true)
    (hown : ∀ c' ∈ kind.collections, c'.hasKey key = true → c' = c) :
    (Role.node kind).member key = .collection c.items := by
  rw [Role.member, Role.under]
  cases hfind : kind.collections.find? (·.hasKey key) with
  | none => exact absurd hkey (List.find?_eq_none.mp hfind c hc)
  | some c' => rw [hown c' (List.mem_of_find?_eq_some hfind) (List.find?_some hfind :)]

/-- Both keys of a collection have its role. -/
theorem member_of_mem {c : Collection} (hc : c ∈ kind.collections) :
    (Role.node kind).member c.plural = .collection c.items ∧
      (Role.node kind).member c.singular = .collection c.items := by
  obtain ⟨-, hown⟩ := Kind.collections_apart kind c hc
  constructor
  · exact member_of_hasKey hc (Collection.hasKey_iff.mpr (.inl rfl)) fun c' hc' hkey =>
      hown c' hc' (.inl hkey)
  · exact member_of_hasKey hc (Collection.hasKey_iff.mpr (.inr rfl)) fun c' hc' hkey =>
      hown c' hc' (.inr hkey)

-- ── Items of collections ──────────────────────────────────────────────────────

/-- A collection that is a single object is edited as the object is. -/
theorem Edit.node_of_collection (h : Edit (.collection kind) v w) (hv : v.isObject = true) :
    Edit (.node kind) v w := by
  cases h with
  | recase role before after v hkey => exact .recase _ before after v hkey
  | permute role hperm hdistinct => exact .permute _ hperm hdistinct
  | addNull role before after key => exact .addNull _ before after key
  | fold kind members => exact nomatch hv
  | respell members hc hfree => exact .respell members hc hfree
  | member role before after key h => exact .member (.node kind) before after key h
  | item role before after h => exact nomatch hv

/-- Only a collection can become an object. -/
theorem Edit.isObject_eq {role : Role} (h : Edit role v w)
    (hrole : ∀ kind, role ≠ .collection kind) : v.isObject = w.isObject := by
  cases h with
  | fold kind members => exact absurd rfl (hrole kind)
  | _ => rfl

theorem Touched.isObject_eq (h : Touched (.node kind) v w) : v.isObject = w.isObject := by
  cases h with
  | refl => rfl
  | single h => exact h.isObject_eq fun _ => nofun

theorem forall₂_touched_refl (role : Role) (items : List Json) :
    List.Forall₂ (Touched role) items items :=
  List.forall₂_same.mpr fun _ _ => .refl

theorem itemsOf_of_isObject (h : v.isObject = true) : Json.itemsOf (some v) = [v] := by
  cases v with
  | object members => rfl
  | _ => exact nomatch h

/-- A collection that is edited has items that are edited, one by one. -/
theorem Edit.items (h : Edit (.collection kind) v w) :
    List.Forall₂ (Touched (.node kind)) (Json.itemsOf (some v)) (Json.itemsOf (some w)) := by
  cases hv : v.isObject with
  | true =>
      have hnode := h.node_of_collection hv
      rw [itemsOf_of_isObject hv, itemsOf_of_isObject ((Touched.isObject_eq (.single hnode)) ▸ hv)]
      exact .cons (.single hnode) .nil
  | false =>
      cases h with
      | fold kind members => exact forall₂_touched_refl _ _
      | item role before after h =>
          exact List.rel_append (forall₂_touched_refl _ before)
            (.cons (.single h) (forall₂_touched_refl _ after))
      | _ => exact nomatch hv

/-- An edit inside a collection is an edit of one item, or changes only whether a single item stands
    in an array. -/
theorem forall₂_itemsOf {x y : Option Json} (h : Option.Rel (Touched (.collection kind)) x y) :
    List.Forall₂ (Touched (.node kind)) (Json.itemsOf x) (Json.itemsOf y) := by
  cases h with
  | none => exact .nil
  | some h =>
      cases h with
      | refl => exact forall₂_touched_refl _ _
      | single h => exact h.items

-- ── Alike nodes ───────────────────────────────────────────────────────────────

/-- Nodes that find the same under every key are alike. -/
theorem alike_of_eq (h : ∀ key, n.get? key = n'.get? key) : Alike kind n n' where
  plain := fun key _ => h key ▸ optionRel_refl (fun _ => .refl) (n.get? key)
  items := by
    intro c _
    rw [Node.items, Node.items, h, h]
    exact forall₂_touched_refl _ _

/-- Edits are invisible to nodes: nodes of an object before and after an edit are alike. If a
    collection has changed its spelling, it is found under the other key, and all other keys are as
    before. -/
theorem alike_of_edited (h : Edited (.node kind) v w) (hn : n.Reads v) (hn' : n'.Reads w) :
    Alike kind n n' := by
  cases h with
  | values hvalues =>
      refine ⟨fun key hkey => ?_, fun c hc => ?_⟩
      · rw [hn.get?, hn'.get?, ← member_of_isPlain hkey]
        exact hvalues key
      · obtain ⟨hplural, hsingular⟩ := member_of_mem hc
        rw [Node.items, Node.items, hn.get?, hn.get?, hn'.get?, hn'.get?]
        exact forall₂_itemsOf (optionRel_or (hplural ▸ hvalues c.plural)
          (hsingular ▸ hvalues c.singular))
  | @respelled c hc hfree hgone hmoved hrest =>
      refine ⟨fun key hkey => ?_, fun c' hc' => ?_⟩
      · rw [hn.get?, hn'.get?, hrest key (hkey c hc)]
        exact optionRel_refl (fun _ => .refl) _
      · have hsame : n.items c'.plural c'.singular = n'.items c'.plural c'.singular := by
          rw [Node.items, Node.items, hn.get?, hn.get?, hn'.get?, hn'.get?]
          by_cases heq : c' = c
          · rw [heq, hfree, hgone, hmoved, Option.or_none, Option.none_or]
          · have hother := (Kind.collections_apart kind c' hc').2 c hc
            have hplural : c.hasKey c'.plural = false :=
              Bool.eq_false_iff.mpr fun hkey => heq (hother (.inl hkey)).symm
            have hsingular : c.hasKey c'.singular = false :=
              Bool.eq_false_iff.mpr fun hkey => heq (hother (.inr hkey)).symm
            rw [hrest _ hplural, hrest _ hsingular]
        rw [hsame]
        exact forall₂_touched_refl _ _

/-- Nodes of one object in two spellings are alike. -/
theorem alike_of_touched (h : Touched (.node kind) v w) (hn : n.Reads v) (hn' : n'.Reads w) :
    Alike kind n n' := by
  cases h with
  | refl => exact alike_of_eq fun key => (hn.get? key).trans (hn'.get? key).symm
  | single h =>
      rcases h.outcome hn.isObject with hedited | ⟨hrole, -, -⟩
      · exact alike_of_edited hedited hn hn'
      · exact nomatch hrole

/-- Alike nodes have alike nodes in their collections, or the items of both are not all objects. -/
theorem Alike.children (h : Alike kind n n') {c : Collection} (hc : c ∈ kind.collections) :
    Agree (List.Forall₂ (Alike c.items)) (n.children c.plural c.singular)
      (n'.children c.plural c.singular) := by
  have hitems := h.items c hc
  have hobjects : (∀ v ∈ n.items c.plural c.singular, v.isObject = true) ↔
      ∀ w ∈ n'.items c.plural c.singular, w.isObject = true := by
    constructor
    · intro hall w hw
      obtain ⟨v, hv, htouched⟩ := forall₂_mem_right hitems hw
      exact htouched.isObject_eq ▸ hall v hv
    · intro hall v hv
      obtain ⟨w, hw, htouched⟩ := forall₂_mem_left hitems hv
      exact htouched.isObject_eq ▸ hall w hw
  refine .of_iff ?_ fun nodes nodes' hnodes hnodes' => ?_
  · rw [Node.exists_children_iff, Node.exists_children_iff]
    exact hobjects
  · have hread : List.Forall₂ (fun child w => ∃ v, child.Reads v ∧ Touched (.node c.items) v w)
        nodes (n'.items c.plural c.singular) :=
      forall₂_trans (Node.reads_children hnodes).flip hitems fun _ v _ hchild htouched =>
        ⟨v, hchild, htouched⟩
    exact forall₂_trans hread (Node.reads_children hnodes')
      fun _ _ _ ⟨_, hchild, htouched⟩ hchild' => alike_of_touched htouched hchild hchild'

-- ── Readings ──────────────────────────────────────────────────────────────────

/-- A plain member is the same in both nodes, or it is nested in both and was edited. -/
theorem Alike.value_cases (h : Alike kind n n') {key : String} (hkey : kind.IsPlain key) :
    n.get? key = n'.get? key ∨ ∃ v w, n.get? key = some v ∧ n'.get? key = some w ∧
      Edit .plain v w := by
  have hplain := h.plain key hkey
  generalize n.get? key = x at hplain ⊢
  generalize n'.get? key = y at hplain ⊢
  cases hplain with
  | none => exact .inl rfl
  | some h =>
      cases h with
      | refl => exact .inl rfl
      | single h => exact .inr ⟨_, _, rfl, rfl, h⟩

/-- Readings agree on a plain member if they look at nothing but its value and fail on a nested
    one. -/
theorem Alike.reading (h : Alike kind n n') {key : String} (hkey : kind.IsPlain key) {α : Type}
    {read : Node → Except Error α}
    (hsame : n.get? key = n'.get? key → Agree Eq (read n) (read n'))
    (hnested : ∀ m v, m.get? key = some v → v.isNested = true → ∃ e, read m = .error e) :
    Agree Eq (read n) (read n') := by
  rcases h.value_cases hkey with heq | ⟨v, w, hv, hw, hedit⟩
  · exact hsame heq
  · obtain ⟨e, he⟩ := hnested n v hv hedit.isNested.1
    obtain ⟨e', he'⟩ := hnested n' w hw hedit.isNested.2
    rw [he, he']
    exact .error e e'

/-- A value that is nested is no scalar of any sort. -/
theorem fails_of_isNested {key : String} (hv : n.get? key = some v) (hnested : v.isNested = true) :
    (∃ e, n.text? key = .error e) ∧ (∃ e, n.scalar? key = .error e) ∧
      (∃ e, n.flag? key = .error e) ∧ ∃ e, n.count? key = .error e := by
  rw [Node.text?, Node.scalar?, Node.flag?, Node.count?, hv]
  cases v with
  | array items => exact ⟨⟨_, rfl⟩, ⟨_, rfl⟩, ⟨_, rfl⟩, ⟨_, rfl⟩⟩
  | object members => exact ⟨⟨_, rfl⟩, ⟨_, rfl⟩, ⟨_, rfl⟩, ⟨_, rfl⟩⟩
  | _ => exact absurd hnested Bool.false_ne_true

/-- A list of texts has no nested item. -/
theorem stringItems_fails (n : Node) (key : String) (before after : List Json)
    (hnested : v.isNested = true) :
    ∃ e, n.stringItems key (before ++ v :: after) = .error e := by
  induction before with
  | nil =>
      cases v with
      | text s => exact nomatch hnested
      | _ => exact ⟨_, rfl⟩
  | cons first before ih =>
      obtain ⟨e, he⟩ := ih
      cases first with
      | text s => exact ⟨e, by rw [List.cons_append, Node.stringItems, he]; rfl⟩
      | _ => exact ⟨_, rfl⟩

/-- A reading of texts fails with the place of its node, and sees nothing else of the node. -/
theorem stringItems_agree (n n' : Node) (key : String) (items : List Json) :
    Agree Eq (n.stringItems key items) (n'.stringItems key items) := by
  induction items with
  | nil => exact .ok rfl
  | cons first items ih =>
      cases first with
      | text s => exact ih.bind_eq fun _ => .ok rfl
      | _ => exact .error _ _

/-- Outside of collections, an object stays an object, and an array keeps a nested item. -/
theorem Edit.plain_cases (h : Edit .plain v w) :
    (v.isObject = true ∧ w.isObject = true) ∨
      ∃ before after x y, v = .array (before ++ x :: after) ∧ w = .array (before ++ y :: after) ∧
        x.isNested = true ∧ y.isNested = true := by
  cases h with
  | respell members hc _ => exact nomatch hc
  | item role before after h =>
      exact .inr ⟨before, after, _, _, rfl, rfl, h.isNested.1, h.isNested.2⟩
  | _ => exact .inl ⟨rfl, rfl⟩

section Readings

variable (h : Alike kind n n') (key : String) (hkey : kind.IsPlain key)
include h hkey

/-- Where members are the same, so are the answers; where an edit is inside the member, the member
    is no text on either side. -/
theorem Alike.text? : Agree Eq (n.text? key) (n'.text? key) := by
  refine h.reading hkey (fun heq => ?_) fun m v hv hnested => (fails_of_isNested hv hnested).1
  rw [Node.text?, Node.text?, heq]
  split
  · exact .ok rfl
  · exact .ok rfl
  · exact .error _ _

theorem Alike.scalar? : Agree Eq (n.scalar? key) (n'.scalar? key) := by
  refine h.reading hkey (fun heq => ?_) fun m v hv hnested => (fails_of_isNested hv hnested).2.1
  rw [Node.scalar?, Node.scalar?, heq]
  split
  · exact .ok rfl
  · exact .ok rfl
  · exact .ok rfl
  · exact .ok rfl
  · exact .error _ _

theorem Alike.flag? : Agree Eq (n.flag? key) (n'.flag? key) := by
  refine h.reading hkey (fun heq => ?_) fun m v hv hnested => (fails_of_isNested hv hnested).2.2.1
  rw [Node.flag?, Node.flag?, heq]
  split
  · exact .ok rfl
  · exact .ok rfl
  · exact .ok rfl
  · exact .ok rfl
  · exact .error _ _

theorem Alike.count? : Agree Eq (n.count? key) (n'.count? key) := by
  refine h.reading hkey (fun heq => ?_) fun m v hv hnested => (fails_of_isNested hv hnested).2.2.2
  rw [Node.count?, Node.count?, heq]
  split
  · exact .ok rfl
  · split
    · exact .ok rfl
    · exact .error _ _

theorem Alike.flag (default : Bool) : Agree Eq (n.flag key default) (n'.flag key default) :=
  (h.flag? key hkey).bind_eq fun _ => .ok rfl

/-- A required text is absent or blank on both sides, or the same text. -/
theorem Alike.requiredText : Agree Eq (n.requiredText key) (n'.requiredText key) := by
  have htext := h.text? key hkey
  rw [Node.requiredText, Node.requiredText]
  generalize n.text? key = reply at htext ⊢
  generalize n'.text? key = reply' at htext ⊢
  cases htext with
  | error e e' => exact .error e e'
  | @ok found _ hsame =>
      subst hsame
      cases found with
      | none => exact .error _ _
      | some s =>
          dsimp only
          split
          · exact .error _ _
          · exact .ok rfl

/-- A list of texts has no room for an edit: an object is refused as a whole, and an array because
    of the nested item. -/
theorem Alike.list : Agree Eq (n.list key) (n'.list key) := by
  have hobject : ∀ (m : Node) (v : Json), m.get? key = some v → v.isObject = true →
      ∃ e, m.list key = .error e := by
    intro m v hv hobject
    cases v with
    | object members =>
        have hscalar : m.scalar? key = .error (m.defect key (.notAScalar (.object members))) := by
          rw [Node.scalar?, hv]
        exact ⟨_, by rw [Node.list, hv, hscalar]; rfl⟩
    | _ => exact nomatch hobject
  rcases h.value_cases hkey with heq | ⟨v, w, hv, hw, hedit⟩
  · rw [Node.list, Node.list, heq]
    split
    · exact .ok rfl
    · exact stringItems_agree n n' key _
    · exact (h.scalar? key hkey).bind_eq fun _ => .ok rfl
  · rcases hedit.plain_cases with ⟨hobjectv, hobjectw⟩ | ⟨before, after, x, y, rfl, rfl, hx, hy⟩
    · obtain ⟨e, he⟩ := hobject n v hv hobjectv
      obtain ⟨e', he'⟩ := hobject n' w hw hobjectw
      rw [he, he']
      exact .error e e'
    · obtain ⟨e, he⟩ := stringItems_fails n key before after hx
      obtain ⟨e', he'⟩ := stringItems_fails n' key before after hy
      rw [Node.list, Node.list, hv, hw]
      dsimp only
      rw [he, he']
      exact .error e e'

/-- Whether a word is allowed depends on the word only. -/
theorem Alike.oneOf? (allowed : List String) :
    Agree Eq (n.oneOf? key allowed) (n'.oneOf? key allowed) := by
  have hscalar := h.scalar? key hkey
  rw [Node.oneOf?, Node.oneOf?]
  generalize n.scalar? key = reply at hscalar ⊢
  generalize n'.scalar? key = reply' at hscalar ⊢
  cases hscalar with
  | error e e' => exact .error e e'
  | @ok found _ hsame =>
      subst hsame
      cases found with
      | none => exact .ok rfl
      | some s =>
          dsimp only
          split
          · exact .ok rfl
          · exact .error _ _

theorem Alike.idMethod? (allowed : List String) :
    Agree Eq (idMethod? n key allowed) (idMethod? n' key allowed) := by
  rw [Document.idMethod?, Document.idMethod?]
  refine (h.oneOf? key hkey allowed).bind_eq fun found => ?_
  cases found with
  | none => exact .ok rfl
  | some word =>
      dsimp only
      split
      · exact .ok rfl
      · exact .error _ _

end Readings

-- ── Parts of entities ─────────────────────────────────────────────────────────

theorem Alike.parameterOf (h : Alike .parameter n n') (block : VendorBlock) :
    Agree Eq (parameterOf block n) (parameterOf block n') := by
  rw [Document.parameterOf, Document.parameterOf]
  refine (h.requiredText "name" (by decide)).bind_eq fun name => ?_
  exact (h.scalar? "value" (by decide)).bind_eq fun value => .ok rfl

/-- A vendor block has its kind and its parameters on both sides. -/
theorem Alike.vendorOf (h : Alike .vendor n n') (blocks : VendorBlocks) :
    Agree Eq (vendorOf blocks n) (vendorOf blocks n') := by
  rw [Document.vendorOf, Document.vendorOf]
  refine (h.requiredText "type" (by decide)).bind_eq fun kind => ?_
  refine (h.children (List.mem_singleton_self _)).bind fun nodes nodes' hnodes => ?_
  refine (Agree.foldlM hnodes (fun block _ _ hchild => hchild.parameterOf block) _).bind_eq
    fun block => ?_
  exact .ok rfl

theorem Alike.vendorsOf (h : Alike kind n n') (hc : Collection.vendors ∈ kind.collections) :
    Agree Eq (vendorsOf n) (vendorsOf n') := by
  rw [Document.vendorsOf, Document.vendorsOf]
  refine (h.children hc).bind fun nodes nodes' hnodes => ?_
  exact Agree.foldlM hnodes (fun blocks _ _ hchild => hchild.vendorOf blocks) .empty

theorem Alike.typeOf (h : Alike .field n n') : Agree Eq (typeOf n) (typeOf n') := by
  rw [Document.typeOf, Document.typeOf]
  refine (h.scalar? "type" (by decide)).bind_eq fun found => ?_
  cases found with
  | none => exact .ok rfl
  | some s =>
      dsimp only
      split
      · exact .ok rfl
      · exact .error _ _

theorem Alike.literalDefault? (h : Alike .field n n') :
    Agree Eq (literalDefault? n) (literalDefault? n') := by
  rw [Document.literalDefault?, Document.literalDefault?]
  refine (h.scalar? "default" (by decide)).bind_eq fun found => ?_
  cases found with
  | none => exact h.scalar? "defaultValue" (by decide)
  | some s => exact .ok rfl

/-- Two defaults are refused on both sides. -/
theorem Alike.defaultOf? (h : Alike .field n n') : Agree Eq (defaultOf? n) (defaultOf? n') := by
  rw [Document.defaultOf?, Document.defaultOf?]
  refine h.literalDefault?.bind_eq fun value => ?_
  refine (h.scalar? "defaultExpr" (by decide)).bind_eq fun expression => ?_
  split
  · exact .error _ _
  · exact .ok rfl
  · exact .ok rfl
  · exact .ok rfl

/-- All members of a field but its vendor blocks are plain, and are read in the same order on both
    sides. -/
theorem Alike.fieldOf (h : Alike .field n n') : Agree Eq (fieldOf n) (fieldOf n') := by
  rw [Document.fieldOf, Document.fieldOf]
  refine h.typeOf.bind_eq fun type => ?_
  refine (h.requiredText "name" (by decide)).bind_eq fun name => ?_
  refine (h.flag "primaryKey" (by decide) false).bind_eq fun primaryKey => ?_
  refine (h.flag "required" (by decide) false).bind_eq fun required => ?_
  refine (h.flag "autoIncrement" (by decide) false).bind_eq fun autoIncrement => ?_
  refine (h.count? "size" (by decide)).bind_eq fun size => ?_
  refine (h.count? "scale" (by decide)).bind_eq fun scale => ?_
  refine (h.scalar? "sqlType" (by decide)).bind_eq fun sqlType => ?_
  refine (h.scalar? "description" (by decide)).bind_eq fun description => ?_
  refine (h.flag "lazyLoad" (by decide) false).bind_eq fun lazyLoad => ?_
  refine (h.flag "primaryString" (by decide) false).bind_eq fun primaryString => ?_
  refine (h.list "valueSet" (by decide)).bind_eq fun valueSet => ?_
  refine (h.vendorsOf (by decide)).bind_eq fun vendor => ?_
  exact h.defaultOf?.bind_eq fun default => .ok rfl

theorem Alike.indexFieldOf (h : Alike .indexField n n') :
    Agree Eq (indexFieldOf n) (indexFieldOf n') := by
  rw [Document.indexFieldOf, Document.indexFieldOf]
  refine (h.requiredText "name" (by decide)).bind_eq fun name => ?_
  exact (h.count? "size" (by decide)).bind_eq fun size => .ok rfl

/-- The kind of an index's object. -/
def indexKind (unique : Bool) : Kind := if unique then .unique else .index

/-- Plain and unique indices are read alike under their own keys. -/
theorem Alike.indexOf {unique : Bool} (h : Alike (indexKind unique) n n') :
    Agree Eq (indexOf unique n) (indexOf unique n') := by
  rw [indexOf_eq, indexOf_eq]
  have hchildren : Agree (List.Forall₂ (Alike .indexField))
      (n.children (if unique then "unique-fields" else "index-fields")
        (if unique then "unique-field" else "index-field"))
      (n'.children (if unique then "unique-fields" else "index-fields")
        (if unique then "unique-field" else "index-field")) := by
    cases unique with
    | false => exact h.children (c := ⟨"index-fields", "index-field", .indexField⟩) (by decide)
    | true => exact h.children (c := ⟨"unique-fields", "unique-field", .indexField⟩) (by decide)
  have hname : (indexKind unique).IsPlain "name" := by cases unique <;> decide
  have hvendors : Collection.vendors ∈ (indexKind unique).collections := by
    cases unique <;> decide
  refine hchildren.bind fun nodes nodes' hnodes => ?_
  refine (Agree.mapM hnodes fun _ _ hchild => hchild.indexFieldOf).bind
    fun fields fields' hfields => ?_
  rw [List.forall₂_eq_eq_eq] at hfields
  subst hfields
  refine (h.scalar? "name" hname).bind_eq fun name => ?_
  exact (h.vendorsOf hvendors).bind_eq fun vendor => .ok rfl

theorem Alike.referenceOf (h : Alike .reference n n') :
    Agree Eq (referenceOf n) (referenceOf n') := by
  rw [Document.referenceOf, Document.referenceOf]
  refine (h.requiredText "local" (by decide)).bind_eq fun localField => ?_
  exact (h.requiredText "foreign" (by decide)).bind_eq fun foreignField => .ok rfl

/-- A relation has its vendor blocks and its pairs as collections; everything else is plain. -/
theorem Alike.relationOf (h : Alike .relation n n') : Agree Eq (relationOf n) (relationOf n') := by
  rw [Document.relationOf, Document.relationOf]
  refine (h.requiredText "target" (by decide)).bind_eq fun target => ?_
  refine (h.scalar? "name" (by decide)).bind_eq fun name => ?_
  refine (h.scalar? "field" (by decide)).bind_eq fun field => ?_
  refine (h.scalar? "refField" (by decide)).bind_eq fun refField => ?_
  refine (h.scalar? "refName" (by decide)).bind_eq fun refName => ?_
  refine (h.scalar? "foreignSchema" (by decide)).bind_eq fun foreignSchema => ?_
  refine (h.flag "skipSql" (by decide) false).bind_eq fun skipSql => ?_
  refine (h.vendorsOf (by decide)).bind_eq fun vendor => ?_
  refine (h.oneOf? "onUpdate" (by decide) actionWords).bind_eq fun onUpdate => ?_
  refine (h.oneOf? "onDelete" (by decide) actionWords).bind_eq fun onDelete => ?_
  refine (h.oneOf? "defaultJoin" (by decide) joinWords).bind_eq fun join => ?_
  refine (h.children (c := ⟨"references", "reference", .reference⟩) (by decide)).bind
    fun nodes nodes' hnodes => ?_
  refine (Agree.mapM hnodes fun _ _ hchild => hchild.referenceOf).bind
    fun references references' hreferences => ?_
  rw [List.forall₂_eq_eq_eq] at hreferences
  subst hreferences
  exact .ok rfl

-- ── Entities ──────────────────────────────────────────────────────────────────

theorem atNode_agree {α : Type} (n n' : Node) (message : String) (result : Except Violation α) :
    Agree Eq (atNode n message result) (atNode n' message result) := by
  cases result with
  | ok a => exact .ok rfl
  | error violation => exact .error _ _

theorem Alike.withField (h : Alike .field n n') (e : Entity) :
    Agree Eq (withField e n) (withField e n') := by
  rw [Document.withField, Document.withField]
  exact h.fieldOf.bind_eq fun f => atNode_agree n n' _ _

theorem Alike.withIndex {unique : Bool} (h : Alike (indexKind unique) n n') (e : Entity) :
    Agree Eq (withIndex unique e n) (withIndex unique e n') := by
  rw [Document.withIndex, Document.withIndex]
  exact h.indexOf.bind_eq fun index => atNode_agree n n' _ _

theorem Alike.withRelation (h : Alike .relation n n') (e : Entity) :
    Agree Eq (withRelation e n) (withRelation e n') := by
  rw [Document.withRelation, Document.withRelation]
  exact h.relationOf.bind_eq fun r => .ok rfl

/-- The attributes of an entity are plain but for its vendor blocks. -/
theorem Alike.headOf (h : Alike .entity n n') : Agree Eq (headOf n) (headOf n') := by
  rw [Document.headOf, Document.headOf]
  refine (h.requiredText "name" (by decide)).bind_eq fun name => ?_
  refine (h.scalar? "tableName" (by decide)).bind_eq fun tableName => ?_
  refine (h.scalar? "schema" (by decide)).bind_eq fun schema => ?_
  refine (h.scalar? "namespace" (by decide)).bind_eq fun namespaceName => ?_
  refine (h.flag "skipSql" (by decide) false).bind_eq fun skipSql => ?_
  refine (h.flag "readOnly" (by decide) false).bind_eq fun readOnly => ?_
  refine (h.flag "abstract" (by decide) false).bind_eq fun isAbstract => ?_
  refine (h.flag "isCrossRef" (by decide) false).bind_eq fun isCrossRef => ?_
  refine (h.scalar? "description" (by decide)).bind_eq fun description => ?_
  refine (h.flag? "identifierQuoting" (by decide)).bind_eq fun identifierQuoting => ?_
  refine (h.flag? "heavyIndexing" (by decide)).bind_eq fun heavyIndexing => ?_
  refine (h.vendorsOf (by decide)).bind_eq fun vendor => ?_
  exact (h.idMethod? "idMethod" (by decide) idWords).bind_eq fun idMethod => .ok rfl

/-- Fields, indices and relations are added one by one, and what one of them adds or is refused for
    is the same on both sides. -/
theorem Alike.entityOf (h : Alike .entity n n') : Agree Eq (entityOf n) (entityOf n') := by
  rw [Document.entityOf, Document.entityOf]
  refine h.headOf.bind_eq fun head => ?_
  refine (h.children (c := ⟨"fields", "field", .field⟩) (by decide)).bind
    fun fields fields' hfields => ?_
  rw [forall₂_isEmpty hfields]
  split
  · exact .error _ _
  · refine (Agree.foldlM hfields (fun e _ _ hchild => hchild.withField e) head).bind_eq fun e => ?_
    refine (h.children (c := ⟨"indices", "index", indexKind false⟩) (by decide)).bind
      fun indices indices' hindices => ?_
    refine (h.children (c := ⟨"uniques", "unique", indexKind true⟩) (by decide)).bind
      fun uniques uniques' huniques => ?_
    refine (Agree.foldlM hindices (fun e _ _ hchild => hchild.withIndex e) e).bind_eq fun e => ?_
    refine (Agree.foldlM huniques (fun e _ _ hchild => hchild.withIndex e) e).bind_eq fun e => ?_
    refine (h.children (c := ⟨"relations", "relation", .relation⟩) (by decide)).bind
      fun relations relations' hrelations => ?_
    exact Agree.foldlM hrelations (fun e _ _ hchild => hchild.withRelation e) e

-- ── Databases ─────────────────────────────────────────────────────────────────

theorem Alike.withEntity (h : Alike .entity n n') (db : Database) :
    Agree Eq (withEntity db n) (withEntity db n') := by
  rw [Document.withEntity, Document.withEntity]
  refine h.entityOf.bind_eq fun e => ?_
  exact (atNode_agree n n' _ _).bind_eq fun added => .ok rfl

theorem Alike.databaseHeadOf (h : Alike .database n n') :
    Agree Eq (databaseHeadOf n) (databaseHeadOf n') := by
  rw [Document.databaseHeadOf, Document.databaseHeadOf]
  refine (h.requiredText "name" (by decide)).bind_eq fun name => ?_
  refine (h.scalar? "schema" (by decide)).bind_eq fun schema => ?_
  refine (h.scalar? "namespace" (by decide)).bind_eq fun namespaceName => ?_
  refine (h.flag? "identifierQuoting" (by decide)).bind_eq fun identifierQuoting => ?_
  refine (h.flag "heavyIndexing" (by decide) false).bind_eq fun heavyIndexing => ?_
  refine (h.vendorsOf (by decide)).bind_eq fun vendor => ?_
  exact (h.idMethod? "defaultIdMethod" (by decide) defaultIdWords).bind_eq fun idMethod => .ok rfl

/-- Alike nodes give the same database, or none on either side. -/
theorem Alike.databaseOf (h : Alike .database n n') :
    Agree Eq (databaseOf n) (databaseOf n') := by
  rw [Document.databaseOf, Document.databaseOf]
  refine h.databaseHeadOf.bind_eq fun db => ?_
  refine (h.children (c := ⟨"entities", "entity", .entity⟩) (by decide)).bind
    fun entities entities' hentities => ?_
  rw [forall₂_isEmpty hentities]
  split
  · exact .error _ _
  · exact Agree.foldlM hentities (fun db _ _ hchild => hchild.withEntity db) db

theorem of_agree (h : Touched (.node kind) v w) (path path' : DocumentPath) :
    Agree (Alike kind) (Node.of path v) (Node.of path' w) := by
  refine .of_iff ?_ fun n n' hn hn' => alike_of_touched h (Node.reads_of hn) (Node.reads_of hn')
  rw [Node.exists_of_iff, Node.exists_of_iff, h.isObject_eq]

/-- Where the node of the database is taken from. -/
theorem databaseNode_eq (hv : v.isObject = true) : ∃ root : Node, root.Reads v ∧
    databaseNode v = match v.member? "database" with
      | some inner => Node.of (DocumentPath.document.key "database") inner
      | none => .ok root := by
  obtain ⟨root, hroot⟩ := Node.exists_of_iff.mpr hv
  refine ⟨root, Node.reads_of hroot, ?_⟩
  rw [← (Node.reads_of hroot).get?, databaseNode, hroot]
  rfl

/-- Outside of the member of that name, the root is an object like that of a database. -/
theorem Edited.of_document (h : Edited .document v w) (hv : v.member? "database" = none)
    (hw : w.member? "database" = none) : Edited (.node .database) v w := by
  cases h with
  | values hvalues =>
      refine .values fun key => ?_
      by_cases hkey : Text.lower key = Text.lower "database"
      · rw [Json.member?_congr hkey, Json.member?_congr hkey, hv, hw]
        exact .none
      · have hrole : Role.document.member key = (Role.node .database).member key := by
          rw [Role.member, if_neg hkey]
          rfl
        exact hrole ▸ hvalues key
  | respelled hc hfree hgone hmoved hrest => exact .respelled hc hfree hgone hmoved hrest

/-- The member of that name is edited as the object of a database. -/
theorem Edited.database (h : Edited .document v w) :
    Option.Rel (Touched (.node .database)) (v.member? "database") (w.member? "database") := by
  cases h with
  | values hvalues => exact hvalues "database"
  | @respelled c hc hfree hgone hmoved hrest =>
      have hplain : Kind.database.IsPlain "database" := by decide
      rw [hrest "database" (hplain c hc)]
      exact optionRel_refl (fun _ => .refl) _

/-- An edit at the root changes nothing about which node is the database's. The case of its own is
    wrapping the root in a member of that name, where the node is the old root. -/
theorem databaseNode_agree (h : Edit .document v w) :
    Agree (Alike .database) (databaseNode v) (databaseNode w) := by
  cases hv : v.isObject with
  | false =>
      cases h with
      | item role before after h => exact .error _ _
      | _ => exact nomatch hv
  | true =>
      have hw : w.isObject = true := h.isObject_eq (fun _ => nofun) ▸ hv
      obtain ⟨root, hroot, hnode⟩ := databaseNode_eq hv
      obtain ⟨root', hroot', hnode'⟩ := databaseNode_eq hw
      rw [hnode, hnode']
      rcases h.outcome hv with hedited | ⟨-, hfree, rfl⟩
      · have hdatabase := hedited.database
        generalize hx : v.member? "database" = x at hdatabase ⊢
        generalize hy : w.member? "database" = y at hdatabase ⊢
        cases hdatabase with
        | none => exact .ok (alike_of_edited (hedited.of_document hx hy) hroot hroot')
        | some htouched => exact of_agree htouched _ _
      · have hheld : Json.holds "database" ("database", v) = true :=
          Json.holds_iff.mpr ⟨by rw [Json.isNull_of_isNested h.isNested.1]; rfl, rfl⟩
        rw [hfree, Json.member?_cons, if_pos hheld]
        cases v with
        | object members =>
            exact .ok (alike_of_touched .refl hroot (Node.reads_object _ members))
        | _ => exact nomatch hv

/-- Two trees that differ by their spelling only give the same database, or none at all. -/
theorem load_of_sameTree (h : SameTree v w) : (load v).toOption = (load w).toOption := by
  induction h with
  | rel v w h =>
      have hagree : Agree Eq (load v) (load w) :=
        (databaseNode_agree h).bind fun _ _ halike => halike.databaseOf
      exact hagree.toOption_eq
  | refl v => rfl
  | symm v w _ ih => exact ih.symm
  | trans u v w _ _ ih ih' => exact ih.trans ih'

private def fieldNode (key : String) : Json := .object [(key, .text "id")]

private def entityNode (key : String) (fields : Json) : Json :=
  .object [("name", .text "item"), (key, fields)]

private def databaseNodeOver (key : String) (entities : Json) : Json :=
  .object [("name", .text "shop"), (key, entities)]

/-- A document with its collections in plural and in arrays. -/
def terse : Json :=
  databaseNodeOver "entities" (.array [entityNode "fields" (.array [fieldNode "name"])])

private def shuffledEntity : Json :=
  .object [("field", fieldNode "NAME"), ("schema", .null), ("name", .text "item")]

/-- The same with a wrapped root, single objects under singular keys, other cases, another order,
    and a member without a value. -/
def verbose : Json := .object [("database", databaseNodeOver "Entity" shuffledEntity)]

/-- Edits of every sort lead from one of the documents to the other, and both give a database. -/
theorem load_of_sameTree_terse : SameTree terse verbose ∧ ∃ db, load terse = .ok db ∧
    load verbose = .ok db := by
  have hentities : Role.document.member "entities" = .collection .entity := by decide +kernel
  have hfields : (Role.node .entity).member "fields" = .collection .field := by decide +kernel
  -- an edit of the entity is an edit of the document
  have hentity : ∀ e e', Edit (.node .entity) e e' →
      SameTree (databaseNodeOver "entities" (.array [e]))
        (databaseNodeOver "entities" (.array [e'])) := by
    intro e e' h
    have hitem : Edit (.collection .entity) (.array [e]) (.array [e']) := .item _ [] [] h
    exact .rel _ _ (.member .document [("name", .text "shop")] [] "entities" (hentities ▸ hitem))
  have hfield : ∀ v w, Edit (.collection .field) v w →
      Edit (.node .entity) (entityNode "fields" v) (entityNode "fields" w) := fun v w h =>
    .member _ [("name", .text "item")] [] "fields" (hfields ▸ h)
  have hcase := hentity _ _ (hfield _ _ (.item _ [] [] (.recase _ [] [] (.text "id")
    (by decide +kernel : Text.lower "name" = Text.lower "NAME"))))
  have hfold := hentity _ _ (hfield _ _ (.fold .field [("NAME", .text "id")]))
  have hfieldKey : Edit (.node .entity) (entityNode "fields" (fieldNode "NAME"))
      (entityNode "field" (fieldNode "NAME")) :=
    .respell (c := ⟨"fields", "field", .field⟩) _ (by decide)
      (Json.member?_eq_none.mpr (by decide +kernel))
  have hnull : Edit (.node .entity) (entityNode "field" (fieldNode "NAME")) (.object [
      ("name", .text "item"), ("field", fieldNode "NAME"), ("schema", .null)]) :=
    .addNull _ [("name", .text "item"), ("field", fieldNode "NAME")] [] "schema"
  have horder : Edit (.node .entity) (.object [
      ("name", .text "item"), ("field", fieldNode "NAME"), ("schema", .null)]) shuffledEntity :=
    .permute _ (List.perm_append_singleton ("name", Json.text "item") [_, _]).symm
      (by decide +kernel)
  have hsingle : Edit .document (databaseNodeOver "entities" (.array [shuffledEntity]))
      (databaseNodeOver "entities" shuffledEntity) :=
    .member .document [("name", .text "shop")] [] "entities" (hentities ▸ .fold .entity _)
  have hentityKey : Edit .document (databaseNodeOver "entities" shuffledEntity)
      (databaseNodeOver "entity" shuffledEntity) :=
    .respell (c := ⟨"entities", "entity", .entity⟩) _
      (by decide : _ ∈ Kind.database.collections) (Json.member?_eq_none.mpr (by decide +kernel))
  have hcapital : Edit .document (databaseNodeOver "entity" shuffledEntity)
      (databaseNodeOver "Entity" shuffledEntity) :=
    .recase .document [("name", .text "shop")] [] shuffledEntity (by decide +kernel)
  have hwrap : Edit .document (databaseNodeOver "Entity" shuffledEntity) verbose :=
    .wrap _ (Json.member?_eq_none.mpr (by decide +kernel))
  have hsame : SameTree terse verbose :=
    .trans _ _ _ hcase <| .trans _ _ _ hfold <| .trans _ _ _ (hentity _ _ hfieldKey) <|
      .trans _ _ _ (hentity _ _ hnull) <| .trans _ _ _ (hentity _ _ horder) <|
      .trans _ _ _ (.rel _ _ hsingle) <| .trans _ _ _ (.rel _ _ hentityKey) <|
      .trans _ _ _ (.rel _ _ hcapital) (.rel _ _ hwrap)
  have hloads : (load terse).isOk = true := by decide +kernel
  have heq := load_of_sameTree hsame
  cases hterse : load terse with
  | error e =>
      rw [hterse] at hloads
      exact nomatch hloads
  | ok db =>
      rw [hterse] at heq
      cases hverbose : load verbose with
      | error e =>
          rw [hverbose] at heq
          exact nomatch heq
      | ok db' =>
          rw [hverbose] at heq
          injection heq with heq
          exact ⟨hsame, db, rfl, by rw [heq]⟩

end SchemaDdl.Document
