import Mathlib.Data.List.Nodup
import Mathlib.Logic.Relation
import SchemaDdl.Proofs.Members

/-!
# Spellings of a document

The same database can be written down in many ways. `Edit` lists the ways in which the spelling of a
tree may change. Which changes are harmless depends on where a value stands: a key of one kind of
object holds a collection, and the same key of another kind holds a plain value, so an edit is made
in a role.

* **`Kind.collections`**: what collections are read from what kind of object.
* **`Edit`**: one change of the spelling, at any depth.
* **`Edit.outcome`**: what an edit of an object does to its members. Values are edited in their own
  roles, or one collection moves from its plural key to its singular one.
-/

namespace SchemaDdl.Document

-- ── Roles ─────────────────────────────────────────────────────────────────────

/-- The kinds of objects that a document is made of. -/
inductive Kind where
  | database
  | entity
  | field
  | relation
  | index
  | unique
  | indexField
  | reference
  | vendor
  | parameter
  deriving DecidableEq

/-- A collection of an object: the two spellings of its key, and the kind of its items. -/
structure Collection where
  plural : String
  singular : String
  items : Kind
  deriving DecidableEq

/-- Vendor blocks, which most kinds of objects may have. -/
def Collection.vendors : Collection := ⟨"vendors", "vendor", .vendor⟩

/-- The collections of a kind of object. -/
def Kind.collections : Kind → List Collection
  | database => [⟨"entities", "entity", entity⟩, .vendors]
  | entity => [⟨"fields", "field", field⟩, ⟨"indices", "index", index⟩,
      ⟨"uniques", "unique", unique⟩, ⟨"relations", "relation", relation⟩, .vendors]
  | field => [.vendors]
  | relation => [⟨"references", "reference", reference⟩, .vendors]
  | index => [⟨"index-fields", "index-field", indexField⟩, .vendors]
  | unique => [⟨"unique-fields", "unique-field", indexField⟩, .vendors]
  | indexField => []
  | reference => []
  | vendor => [⟨"parameters", "parameter", parameter⟩]
  | parameter => []

/-- Whether a key is one of the spellings of a collection's key, in whatever case. -/
def Collection.hasKey (c : Collection) (key : String) : Bool :=
  Text.lower key == Text.lower c.plural || Text.lower key == Text.lower c.singular

/-- Where a value stands: at the root, as an object of some kind, as a collection of such objects,
    or anywhere else. -/
inductive Role where
  | document
  | node (kind : Kind)
  | collection (kind : Kind)
  | plain
  deriving DecidableEq

namespace Role

/-- The collections of an object in a role. A collection may be a single object. -/
def collections : Role → List Collection
  | document => Kind.database.collections
  | node kind => kind.collections
  | collection kind => kind.collections
  | plain => []

/-- The role of what stands under a key next to the given collections. -/
def under (collections : List Collection) (key : String) : Role :=
  match collections.find? (·.hasKey key) with
  | some c => collection c.items
  | none => plain

/-- The role of a member of an object. -/
def member (role : Role) (key : String) : Role :=
  match role with
  | document =>
    if Text.lower key = Text.lower "database" then node .database
    else under Kind.database.collections key
  | node kind => under kind.collections key
  | collection kind => under kind.collections key
  | plain => plain

/-- The role of an item of an array. -/
def item : Role → Role
  | collection kind => node kind
  | _ => plain

end Role

-- ── Edits ─────────────────────────────────────────────────────────────────────

/-- A member under the singular key of a collection if it stands under the plural one. -/
def Collection.respelled (c : Collection) (m : String × Json) : String × Json :=
  if Text.lower m.1 = Text.lower c.plural then (c.singular, m.2) else m

/-- One change of the spelling of a value in a role. -/
inductive Edit : Role → Json → Json → Prop where
  /-- Write a key in another case. -/
  | recase (role : Role) (before after : List (String × Json)) {key key' : String} (v : Json) :
      Text.lower key = Text.lower key' →
      Edit role (.object (before ++ (key, v) :: after)) (.object (before ++ (key', v) :: after))
  /-- Write members in another order, if no two of them that are not `null` share a key. -/
  | permute (role : Role) {members members' : List (String × Json)} :
      members.Perm members' →
      ((members.filter (!·.2.isNull)).map fun m => Text.lower m.1).Nodup →
      Edit role (.object members) (.object members')
  /-- Write a member with `null`. -/
  | addNull (role : Role) (before after : List (String × Json)) (key : String) :
      Edit role (.object (before ++ after)) (.object (before ++ (key, .null) :: after))
  /-- Write a collection of one object as that object. -/
  | fold (kind : Kind) (members : List (String × Json)) :
      Edit (.collection kind) (.array [.object members]) (.object members)
  /-- Write the key of a collection in singular, if there is nothing under the singular key. -/
  | respell {role : Role} {c : Collection} (members : List (String × Json)) :
      c ∈ role.collections → (Json.object members).member? c.singular = none →
      Edit role (.object members) (.object (members.map c.respelled))
  /-- Write the database as the only member of the root, if the root has no such member. -/
  | wrap (members : List (String × Json)) :
      (Json.object members).member? "database" = none →
      Edit .document (.object members) (.object [("database", .object members)])
  /-- Edit the value of a member. -/
  | member (role : Role) (before after : List (String × Json)) (key : String) {v w : Json} :
      Edit (role.member key) v w →
      Edit role (.object (before ++ (key, v) :: after)) (.object (before ++ (key, w) :: after))
  /-- Edit an item of an array. -/
  | item (role : Role) (before after : List Json) {v w : Json} :
      Edit role.item v w →
      Edit role (.array (before ++ v :: after)) (.array (before ++ w :: after))

/-- Two trees that differ by their spelling only. -/
def SameTree : Json → Json → Prop := Relation.EqvGen (Edit .document)

/-- A value that is as it was, or was edited once. -/
def Touched (role : Role) : Json → Json → Prop := Relation.ReflGen (Edit role)

-- ── Keys of collections ───────────────────────────────────────────────────────

theorem Collection.hasKey_iff {c : Collection} {key : String} :
    c.hasKey key = true ↔
      Text.lower key = Text.lower c.plural ∨ Text.lower key = Text.lower c.singular := by
  rw [hasKey, Bool.or_eq_true, beq_iff_eq, beq_iff_eq]

theorem Collection.hasKey_congr {c : Collection} {key key' : String}
    (h : Text.lower key = Text.lower key') : c.hasKey key = c.hasKey key' := by
  rw [hasKey, hasKey, h]

/-- The two keys of a collection differ, and no key belongs to two collections of one object. -/
theorem Kind.collections_apart (kind : Kind) : ∀ c ∈ kind.collections,
    Text.lower c.plural ≠ Text.lower c.singular ∧
      ∀ c' ∈ kind.collections, c'.hasKey c.plural = true ∨ c'.hasKey c.singular = true →
        c' = c := by
  cases kind <;> decide +kernel

/-- The case of a key does not count for its role. -/
theorem Role.member_congr {role : Role} {key key' : String}
    (h : Text.lower key = Text.lower key') : role.member key = role.member key' := by
  have hkeys : (fun c : Collection => c.hasKey key) = fun c => c.hasKey key' :=
    funext fun c => c.hasKey_congr h
  cases role with
  | document => simp only [member, under, h, hkeys]
  | node kind => simp only [member, under, hkeys]
  | collection kind => simp only [member, under, hkeys]
  | plain => rfl

/-- The two keys of a collection are different ones, in whatever case. -/
theorem Role.spellings_ne {role : Role} {c : Collection} (hc : c ∈ role.collections) :
    Text.lower c.plural ≠ Text.lower c.singular := by
  cases role with
  | document => exact (Kind.collections_apart .database c hc).1
  | node kind => exact (Kind.collections_apart kind c hc).1
  | collection kind => exact (Kind.collections_apart kind c hc).1
  | plain => exact nomatch hc

-- ── What an edit does ─────────────────────────────────────────────────────────

/-- What an edit of an object does to its members. Either values are edited in the roles of their
    keys, or one collection is found under its singular key instead of its plural one. -/
inductive Edited (role : Role) (v w : Json) : Prop where
  | values : (∀ key, Option.Rel (Touched (role.member key)) (v.member? key) (w.member? key)) →
      Edited role v w
  | respelled {c : Collection} : c ∈ role.collections →
      v.member? c.singular = none → w.member? c.plural = none →
      w.member? c.singular = v.member? c.plural →
      (∀ key, c.hasKey key = false → w.member? key = v.member? key) → Edited role v w

variable {role : Role} {v w : Json}

theorem Edited.of_eq (h : ∀ key, v.member? key = w.member? key) : Edited role v w :=
  .values fun key => h key ▸ optionRel_refl (fun _ => .refl) (v.member? key)

/-- What is edited is an array or an object, before and after. -/
theorem Edit.isNested (h : Edit role v w) : v.isNested = true ∧ w.isNested = true := by
  cases h <;> exact ⟨rfl, rfl⟩

/-- A member whose value is edited still holds a value, and no other key shows a difference. -/
theorem edited_member (role : Role) (before after : List (String × Json)) (key : String)
    (h : Edit (role.member key) v w) :
    Edited role (.object (before ++ (key, v) :: after))
      (.object (before ++ (key, w) :: after)) := by
  refine .values fun key' => ?_
  have hholds : Json.holds key' (key, w) = Json.holds key' (key, v) := by
    simp only [Json.holds, Json.isNull_of_isNested h.isNested.1,
      Json.isNull_of_isNested h.isNested.2]
  rw [Json.member?_append, Json.member?_append, Json.member?_cons, Json.member?_cons, hholds]
  have hrefl := optionRel_refl (T := Touched (role.member key')) (fun _ => .refl)
  refine optionRel_or (optionRel_or (hrefl _) ?_) (hrefl _)
  split
  · rename_i hkey
    have hsame : role.member key = role.member key' :=
      Role.member_congr (Json.holds_iff.mp hkey).2
    exact .some (.single (hsame ▸ h))
  · exact .none

/-- A collection that is respelled is found under its singular key, and nothing else changes. -/
theorem edited_respell {c : Collection} (members : List (String × Json))
    (hc : c ∈ role.collections) (hfree : (Json.object members).member? c.singular = none) :
    Edited role (.object members) (.object (members.map c.respelled)) := by
  have hne := Role.spellings_ne hc
  have hvalue : ∀ m : String × Json, (c.respelled m).2 = m.2 := by
    intro m
    rw [Collection.respelled]
    split
    · rfl
    · rfl
  refine .respelled hc hfree ?_ ?_ ?_
  · refine Json.member?_eq_none.mpr fun m' hm' => Bool.eq_false_iff.mpr fun hholds => ?_
    obtain ⟨m, -, rfl⟩ := List.mem_map.mp hm'
    obtain ⟨-, hkey⟩ := Json.holds_iff.mp hholds
    rw [Collection.respelled] at hkey
    split at hkey
    · exact hne hkey.symm
    · rename_i hother
      exact hother hkey
  · refine Json.member?_map fun m hm => ⟨hvalue m, ?_⟩
    have hnone := Json.member?_eq_none.mp hfree m hm
    rw [Collection.respelled]
    split
    · rename_i hkey
      rw [Json.holds, Json.holds, hkey, beq_self_eq_true, beq_self_eq_true]
    · rename_i hkey
      rw [hnone, Json.holds, beq_false_of_ne hkey, Bool.and_false]
  · intro key hkey
    have hplural : Text.lower c.plural ≠ Text.lower key := fun heq =>
      Bool.eq_false_iff.mp hkey (Collection.hasKey_iff.mpr (.inl heq.symm))
    have hsingular : Text.lower c.singular ≠ Text.lower key := fun heq =>
      Bool.eq_false_iff.mp hkey (Collection.hasKey_iff.mpr (.inr heq.symm))
    refine Json.member?_map fun m _ => ⟨hvalue m, ?_⟩
    rw [Collection.respelled]
    split
    · rename_i hm
      rw [Json.holds, Json.holds, hm, beq_false_of_ne hplural, beq_false_of_ne hsingular]
    · rfl

/-- What an edit of an object does to it, unless it wraps the root. -/
theorem Edit.outcome (h : Edit role v w) (hv : v.isObject = true) :
    Edited role v w ∨ role = .document ∧ v.member? "database" = none ∧
      w = .object [("database", v)] := by
  cases h with
  | recase role before after v hkey =>
      refine .inl (.of_eq fun key => ?_)
      rw [Json.member?_append, Json.member?_append, Json.member?_cons, Json.member?_cons,
        Json.holds, Json.holds, hkey]
  | permute role hperm hdistinct => exact .inl (.of_eq (Json.member?_perm hperm hdistinct))
  | addNull role before after key =>
      refine .inl (.of_eq fun key' => ?_)
      rw [Json.member?_append, Json.member?_append, Json.member?_cons]
      exact congrArg (Option.or · _) Option.or_none.symm
  | fold kind members => exact absurd hv Bool.false_ne_true
  | respell members hc hfree => exact .inl (edited_respell members hc hfree)
  | wrap members hfree => exact .inr ⟨rfl, hfree, rfl⟩
  | member role before after key h => exact .inl (edited_member role before after key h)
  | item role before after h => exact absurd hv Bool.false_ne_true

end SchemaDdl.Document
