import SchemaDdl.Document.Load
import SchemaDdl.Proofs.Lists
import SchemaDdl.Proofs.Maps

/-!
# Members of objects

Loading sees a document through nodes. What a node shows can be said of the object behind it,
without lower-cased copies of its keys: a key counts in whatever case it is written, `null` counts
as nothing, and the last member counts of those that are left.

* **`Json.member?`**, **`Json.childObjects`**: look-up in an object, and the items of a collection
  however it is spelled.
* **`Document.Node.Reads`**: a node shows the members of an object.
* **`Document.Node.reads_children`**, **`Document.Node.exists_children_iff`**: the nodes of a
  collection show its items, and there are such nodes if all items are objects.
-/

namespace SchemaDdl

namespace Json

/-- Whether a value is an object. -/
def isObject : Json → Bool
  | object _ => true
  | _ => false

/-- Whether a value is an array or an object. -/
def isNested : Json → Bool
  | array _ => true
  | object _ => true
  | _ => false

/-- Whether a member holds a value under a key, in whatever case. -/
def holds (key : String) (m : String × Json) : Bool :=
  !m.2.isNull && Text.lower m.1 == Text.lower key

/-- The value under a key, in whatever case; the last one if there are several. -/
def member? (v : Json) (key : String) : Option Json :=
  match v with
  | object members => (members.reverse.find? (holds key)).map Prod.snd
  | _ => none

/-- The items of a collection: those of an array, and anything else alone. -/
def itemsOf : Option Json → List Json
  | none => []
  | some (array items) => items
  | some v => [v]

/-- The items under a plural key, or under a singular one if there is nothing under the plural. -/
def childObjects (v : Json) (plural singular : String) : List Json :=
  itemsOf ((v.member? plural).or (v.member? singular))

theorem isNull_of_isNested {v : Json} (h : v.isNested = true) : v.isNull = false := by
  cases v with
  | null => exact nomatch h
  | _ => rfl

theorem holds_iff {key : String} {m : String × Json} :
    holds key m = true ↔ (!m.2.isNull) = true ∧ Text.lower m.1 = Text.lower key := by
  rw [holds, Bool.and_eq_true, beq_iff_eq]

/-- The case of a key does not count. -/
theorem member?_congr {v : Json} {key key' : String} (h : Text.lower key = Text.lower key') :
    v.member? key = v.member? key' := by
  have hholds : holds key = holds key' := by
    funext m
    rw [holds, holds, h]
  cases v with
  | object members => rw [member?, member?, hholds]
  | _ => rfl

/-- Of members on both sides of a place those behind it count first. -/
theorem member?_append (before after : List (String × Json)) (key : String) :
    (object (before ++ after)).member? key =
      ((object after).member? key).or ((object before).member? key) := by
  rw [member?, member?, member?, List.reverse_append, List.find?_append, Option.map_or]

/-- A member counts only if no later one is under the same key. -/
theorem member?_cons (m : String × Json) (members : List (String × Json)) (key : String) :
    (object (m :: members)).member? key =
      ((object members).member? key).or (if holds key m then some m.2 else none) := by
  rw [← List.singleton_append, member?_append]
  congr 1
  rw [member?, List.reverse_singleton, List.find?_singleton]
  split
  · rfl
  · rfl

/-- Nothing is found under a key exactly if no member holds a value for it. -/
theorem member?_eq_none {members : List (String × Json)} {key : String} :
    (object members).member? key = none ↔ ∀ m ∈ members, holds key m = false := by
  rw [member?, Option.map_eq_none_iff, List.find?_eq_none]
  simp only [List.mem_reverse, Bool.not_eq_true]

/-- Members under other keys are found under a key as those they come from are under another. -/
theorem member?_map {f : String × Json → String × Json} {members : List (String × Json)}
    {key key' : String}
    (hf : ∀ m ∈ members, (f m).2 = m.2 ∧ holds key (f m) = holds key' m) :
    (object (members.map f)).member? key = (object members).member? key' := by
  induction members with
  | nil => rfl
  | cons m members ih =>
      obtain ⟨hvalue, hholds⟩ := hf m List.mem_cons_self
      rw [List.map_cons, member?_cons, member?_cons, hvalue, hholds,
        ih fun m' hm' => hf m' (List.mem_cons_of_mem m hm')]

/-- The order of members does not count if no two of them hold values under one key. -/
theorem member?_perm {members members' : List (String × Json)} (hperm : members.Perm members')
    (hdistinct : ((members.filter (!·.2.isNull)).map fun m => Text.lower m.1).Nodup)
    (key : String) : (object members).member? key = (object members').member? key := by
  -- at most one member holds a value under the key, so the others need no order
  have hfew : (members.filter (holds key)).length ≤ 1 := by
    have hsub : (members.filter (holds key)).Sublist (members.filter (!·.2.isNull)) :=
      List.monotone_filter_right members fun m hm => (holds_iff.mp hm).1
    have hkeys : ∀ k ∈ (members.filter (holds key)).map fun m => Text.lower m.1,
        k = Text.lower key := by
      intro k hk
      obtain ⟨m, hm, rfl⟩ := List.mem_map.mp hk
      exact (holds_iff.mp (List.mem_filter.mp hm).2).2
    have hnodup := (hsub.map fun m : String × Json => Text.lower m.1).nodup hdistinct
    rw [List.eq_replicate_of_mem hkeys, List.nodup_replicate, List.length_map] at hnodup
    exact hnodup
  have hsame : members.filter (holds key) = members'.filter (holds key) := by
    have hfilter := hperm.filter (holds key)
    match hlist : members.filter (holds key) with
    | [] =>
        rw [hlist] at hfilter
        exact hfilter.nil_eq
    | [m] =>
        rw [hlist] at hfilter
        exact (List.perm_singleton.mp hfilter.symm).symm
    | _ :: _ :: _ =>
        rw [hlist] at hfew
        exact absurd hfew (by simp)
  rw [member?, member?, ← List.head?_filter, ← List.head?_filter, List.filter_reverse,
    List.filter_reverse, hsame]

end Json

namespace Document.Node

variable {n : Node} {v : Json}

/-- A node that shows the members of an object. -/
structure Reads (n : Node) (v : Json) : Prop where
  isObject : v.isObject = true
  get? : ∀ key, n.get? key = v.member? key

/-- The node that is made of an object finds what the object has, key by key. -/
theorem reads_object (path : DocumentPath) (members : List (String × Json)) :
    Reads ⟨path, membersOf members⟩ (.object members) where
  isObject := rfl
  get? := by
    intro key
    have hholds : Json.holds key = fun m => decide ((!m.2.isNull) = true ∧
        ((fun e => e.1 == Text.lower key) ∘ fun m => (Text.lower m.1, m.2)) m = true) := by
      funext m
      simp [Json.holds, beq_eq_decide]
    rw [Node.get?, membersOf, OrderedMap.get?_ofList_eq_find?, ← List.map_reverse,
      ← List.filter_reverse, List.find?_map, List.find?_filter, Option.map_map, Json.member?,
      hholds]
    rfl

/-- A node is made of an object only. -/
theorem reads_of {path : DocumentPath} (h : Node.of path v = .ok n) : n.Reads v := by
  cases v with
  | object members =>
      injection h with h
      rw [← h]
      exact reads_object path members
  | _ => exact nomatch h

/-- Objects are what has a node. -/
theorem exists_of_iff {path : DocumentPath} :
    (∃ n, Node.of path v = .ok n) ↔ v.isObject = true := by
  constructor
  · rintro ⟨n, hn⟩
    exact (reads_of hn).isObject
  · intro h
    cases v with
    | object members => exact ⟨_, rfl⟩
    | _ => exact nomatch h

-- ── Collections ───────────────────────────────────────────────────────────────

/-- Where all items are objects, there is a node for each of them, in order. -/
theorem reads_itemsFrom {path : DocumentPath} {i : Nat} {items : List Json} {nodes : List Node}
    (h : itemsFrom path i items = .ok nodes) :
    List.Forall₂ (fun w child => Reads child w) items nodes := by
  induction items generalizing i nodes with
  | nil =>
      injection h with h
      exact h ▸ .nil
  | cons w items ih =>
      rw [itemsFrom] at h
      cases hfirst : Node.of (path.item i) w with
      | error e =>
          rw [hfirst] at h
          exact nomatch h
      | ok child =>
          rw [hfirst] at h
          dsimp only at h
          cases hrest : itemsFrom path (i + 1) items with
          | error e =>
              rw [hrest] at h
              exact nomatch h
          | ok children =>
              rw [hrest] at h
              injection h with h
              exact h ▸ .cons (reads_of hfirst) (ih hrest)

/-- Objects have nodes, whatever the position they are counted from. -/
theorem exists_itemsFrom (path : DocumentPath) (i : Nat) {items : List Json}
    (h : ∀ w ∈ items, w.isObject = true) : ∃ nodes, itemsFrom path i items = .ok nodes := by
  induction items generalizing i with
  | nil => exact ⟨[], rfl⟩
  | cons w items ih =>
      have hnode : ∃ child, Node.of (path.item i) w = .ok child :=
        exists_of_iff.mpr (h w List.mem_cons_self)
      obtain ⟨child, hfirst⟩ := hnode
      obtain ⟨children, hrest⟩ := ih (i + 1) fun w' hw' => h w' (List.mem_cons_of_mem w hw')
      exact ⟨child :: children, by rw [itemsFrom, hfirst, hrest]⟩

/-- The nodes of a collection are those of its items, also if it is a single object. -/
theorem reads_collection {key : String} {nodes : List Node} (h : n.collection key v = .ok nodes) :
    List.Forall₂ (fun w child => Reads child w) (Json.itemsOf (some v)) nodes := by
  cases v with
  | array items => exact reads_itemsFrom h
  | object members =>
      injection h with h
      exact h ▸ .cons (reads_object _ members) .nil
  | _ => exact nomatch h

/-- A collection of objects has nodes. -/
theorem exists_collection (key : String)
    (h : ∀ w ∈ Json.itemsOf (some v), w.isObject = true) :
    ∃ nodes, n.collection key v = .ok nodes := by
  cases v with
  | array items => exact exists_itemsFrom _ 0 h
  | object members => exact ⟨_, rfl⟩
  | _ => exact nomatch h _ (List.mem_singleton_self _)

variable {plural singular : String}

/-- The items of a collection as a node finds them. -/
def items (n : Node) (plural singular : String) : List Json :=
  Json.itemsOf ((n.get? plural).or (n.get? singular))

theorem Reads.items (hn : n.Reads v) :
    n.items plural singular = v.childObjects plural singular := by
  rw [Node.items, hn.get?, hn.get?]
  rfl

/-- The nodes of a collection show its items, in their order. -/
theorem reads_children {nodes : List Node} (h : n.children plural singular = .ok nodes) :
    List.Forall₂ (fun w child => Reads child w) (n.items plural singular) nodes := by
  rw [children] at h
  rw [Node.items]
  cases hplural : n.get? plural with
  | some found =>
      rw [hplural] at h
      exact reads_collection h
  | none =>
      rw [hplural] at h
      cases hsingular : n.get? singular with
      | some found =>
          rw [hsingular] at h
          exact reads_collection h
      | none =>
          rw [hsingular] at h
          injection h with h
          exact h ▸ .nil

/-- A collection can be read if it has nothing but objects. -/
theorem exists_children_iff : (∃ nodes, n.children plural singular = .ok nodes) ↔
    ∀ w ∈ n.items plural singular, w.isObject = true := by
  constructor
  · rintro ⟨nodes, h⟩ w hw
    obtain ⟨child, -, hchild⟩ := forall₂_mem_left (reads_children h) hw
    exact hchild.isObject
  · intro h
    rw [children]
    rw [Node.items] at h
    cases hplural : n.get? plural with
    | some found =>
        rw [hplural] at h
        exact exists_collection plural h
    | none =>
        rw [hplural] at h
        cases hsingular : n.get? singular with
        | some found =>
            rw [hsingular] at h
            exact exists_collection singular h
        | none => exact ⟨[], rfl⟩

-- ── Texts and words ───────────────────────────────────────────────────────────

/-- A text that must be there is there and is not blank. -/
theorem Reads.requiredText (hn : n.Reads v) {key s : String} (h : n.requiredText key = .ok s) :
    v.member? key = some (.text s) ∧ Text.isBlankText s = false := by
  rw [Node.requiredText, text?, hn.get?] at h
  split at h
  · exact nomatch h
  · rename_i htext
    split at h
    · exact nomatch h
    · rename_i hblank
      injection h with h
      subst h
      refine ⟨?_, Bool.eq_false_iff.mpr hblank⟩
      split at htext
      · exact nomatch htext
      · rename_i s' hfound
        injection htext with htext
        injection htext with htext
        rw [hfound, htext]
      · exact nomatch htext
  · exact nomatch h

/-- A word of a closed vocabulary is one of its words. -/
theorem oneOf?_eq_ok {key : String} {allowed : List String} {word : String}
    (h : n.oneOf? key allowed = .ok (some word)) : word ∈ allowed := by
  rw [oneOf?] at h
  split at h
  · exact nomatch h
  · exact nomatch h
  · dsimp only at h
    split at h
    · rename_i hallowed
      injection h with h
      injection h with h
      exact h ▸ List.contains_iff_mem.mp hallowed
    · exact nomatch h

end Document.Node

end SchemaDdl
