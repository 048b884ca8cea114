import SchemaDdl.Proofs.Maps
import SchemaDdl.Proofs.Resolution
import Mathlib.Data.List.Induction

/-!
# What verification checks

Verifying a relation is a chain of look-ups in maps and lists. Here its outcome is said without
them: which item of which list is meant, and which check fails first.

* **`FirstWith`**, **`LastWith`**: the first and the last item of a list with a property.
* **`Relation.PointsAt`**, **`Entity.Calls`**, **`Entity.Reaches`**: what a target, the name of a
  relation and a foreign path stand for.
* **`Relation.Resolvable`**, **`Relation.Fails`**: all checks hold, or one of them is the first that
  does not. Verification answers accordingly (`Relation.verify_cases`).
-/

namespace SchemaDdl

-- ── First and last ────────────────────────────────────────────────────────────

section Ends

variable {α β ε : Type}

/-- An item is the first of a list that has a property. -/
def FirstWith (has : α → Prop) (l : List α) (a : α) : Prop :=
  ∃ before after, l = before ++ a :: after ∧ has a ∧ ∀ b ∈ before, ¬ has b

/-- An item is the last of a list that has a property. -/
def LastWith (has : α → Prop) (l : List α) (a : α) : Prop :=
  ∃ before after, l = before ++ a :: after ∧ has a ∧ ∀ b ∈ after, ¬ has b

variable {has : α → Prop} {l : List α} {a : α}

/-- An item that does not count can be put in front. -/
theorem FirstWith.cons {b : α} (h : FirstWith has l a) (hb : ¬ has b) :
    FirstWith has (b :: l) a := by
  obtain ⟨before, after, rfl, ha, hbefore⟩ := h
  exact ⟨b :: before, after, rfl, ha, List.forall_mem_cons.mpr ⟨hb, hbefore⟩⟩

theorem firstWith_head (l : List α) (ha : has a) : FirstWith has (a :: l) a :=
  ⟨[], l, rfl, ha, fun _ hb => (nomatch hb)⟩

theorem FirstWith.mem (h : FirstWith has l a) : a ∈ l ∧ has a := by
  obtain ⟨before, after, rfl, ha, -⟩ := h
  exact ⟨List.mem_append_right _ List.mem_cons_self, ha⟩

/-- Properties that are equivalent for the items of a list have the same first item. -/
theorem firstWith_congr {has' : α → Prop} (hiff : ∀ b ∈ l, has b ↔ has' b) :
    FirstWith has l a ↔ FirstWith has' l a := by
  refine exists_congr fun before => exists_congr fun after => and_congr_right fun hl => ?_
  subst hl
  refine and_congr (hiff a (List.mem_append_right _ List.mem_cons_self)) ?_
  exact forall₂_congr fun b hb => not_congr (hiff b (List.mem_append_left _ hb))

/-- Equivalent properties have the same first item. -/
theorem FirstWith.imp {has' : α → Prop} (h : FirstWith has l a) (hiff : ∀ b, has b ↔ has' b) :
    FirstWith has' l a :=
  (firstWith_congr fun b _ => hiff b).mp h

/-- What is put at the end is the last item with a property that it has. -/
theorem lastWith_concat {b : α} :
    LastWith has (l ++ [b]) a ↔ has b ∧ a = b ∨ ¬ has b ∧ LastWith has l a := by
  constructor
  · rintro ⟨before, after, hl, ha, hafter⟩
    -- the new item is either the one that was meant or the last of those behind it
    rcases List.eq_nil_or_concat after with rfl | ⟨after', b', rfl⟩
    · obtain ⟨-, hb⟩ := List.append_inj' hl rfl
      injection hb with hb
      rw [hb]
      exact Or.inl ⟨ha, rfl⟩
    · rw [List.concat_eq_append] at hl hafter
      rw [← List.cons_append, ← List.append_assoc] at hl
      obtain ⟨hl, hb⟩ := List.append_inj' hl rfl
      injection hb with hb
      rw [hb]
      refine Or.inr ⟨hafter b' (List.mem_append_right _ List.mem_cons_self), before, after', hl, ha,
        fun c hc => hafter c (List.mem_append_left _ hc)⟩
  · rintro (⟨hb, rfl⟩ | ⟨hb, before, after, rfl, ha, hafter⟩)
    · exact ⟨l, [], rfl, hb, fun _ hc => (nomatch hc)⟩
    · refine ⟨before, after ++ [b], by simp, ha, fun c hc => ?_⟩
      rcases List.mem_append.mp hc with hold | hlast
      · exact hafter c hold
      · rw [List.mem_singleton.mp hlast]
        exact hb

/-- A search finds the first item that passes the test. -/
theorem find?_eq_some_firstWith {test : α → Bool} (htest : ∀ b, test b = true ↔ has b) :
    l.find? test = some a ↔ FirstWith has l a := by
  have hnot : ∀ b, (!test b) = true ↔ ¬ has b := fun b => by
    rw [← htest b, Bool.not_eq_true', Bool.not_eq_true]
  rw [List.find?_eq_some_iff_append, FirstWith]
  simp only [htest, hnot]
  constructor
  · rintro ⟨ha, before, after, hl, hbefore⟩
    exact ⟨before, after, hl, ha, hbefore⟩
  · rintro ⟨before, after, hl, ha, hbefore⟩
    exact ⟨ha, before, after, hl, hbefore⟩

/-- A search with a second test for the case that the first one finds nothing. -/
theorem find?_or_eq_some {has' : α → Prop} {test test' : α → Bool}
    (htest : ∀ b, test b = true ↔ has b) (htest' : ∀ b, test' b = true ↔ has' b) :
    (l.find? test).or (l.find? test') = some a ↔
      FirstWith has l a ∨ (∀ b ∈ l, ¬ has b) ∧ FirstWith has' l a := by
  rw [Option.or_eq_some_iff, find?_eq_some_firstWith htest, find?_eq_some_firstWith htest',
    List.find?_eq_none]
  simp only [htest]

/-- Going through a list: all items are good and there are answers, or the answer is the failure of
    the first item that is not good. -/
theorem mapM_cases {f : α → Except ε β} {good : α → Prop}
    (hgood : ∀ x, good x ↔ ∃ y, f x = .ok y) (xs : List α) :
    ((∀ x ∈ xs, good x) ∧ ∃ ys, xs.mapM f = .ok ys) ∨
      ∃ x e, FirstWith (¬ good ·) xs x ∧ f x = .error e ∧ xs.mapM f = .error e := by
  induction xs with
  | nil => exact Or.inl ⟨fun _ hx => (nomatch hx), [], rfl⟩
  | cons x xs ih =>
      rw [List.mapM_cons]
      cases hx : f x with
      | error e =>
          refine Or.inr ⟨x, e, firstWith_head xs fun hg => ?_, hx, rfl⟩
          obtain ⟨y, hy⟩ := (hgood x).mp hg
          rw [hx] at hy
          exact nomatch hy
      | ok y =>
          have hxgood : good x := (hgood x).mpr ⟨y, hx⟩
          rcases ih with ⟨hall, ys, hys⟩ | ⟨x', e, hfirst, he, hrest⟩
          · rw [hys]
            exact Or.inl ⟨List.forall_mem_cons.mpr ⟨hxgood, hall⟩, y :: ys, rfl⟩
          · rw [hrest]
            exact Or.inr ⟨x', e, hfirst.cons (not_not_intro hxgood), he, rfl⟩

end Ends

-- ── Separators and maps ───────────────────────────────────────────────────────

namespace Text

/-- A text cannot be halved exactly if the separator does not occur in it. -/
theorem halvesChars?_eq_none {sep : Char} {cs : List Char} :
    halvesChars? sep cs = none ↔ sep ∉ cs := by
  induction cs with
  | nil => exact iff_of_true rfl (List.not_mem_nil)
  | cons c cs ih =>
      rw [halvesChars?]
      by_cases hc : c = sep
      · rw [if_pos hc, hc]
        exact iff_of_false (fun h => nomatch h) fun h => h List.mem_cons_self
      · rw [if_neg hc, Option.map_eq_none_iff, ih, List.mem_cons, not_or]
        exact (and_iff_right (Ne.symm hc)).symm

/-- A text is halved at the first separator, so the first half has none. -/
theorem halvesChars?_eq_some {sep : Char} {cs head tail : List Char} :
    halvesChars? sep cs = some (head, tail) ↔ cs = head ++ sep :: tail ∧ sep ∉ head := by
  induction cs generalizing head with
  | nil => exact iff_of_false (fun h => nomatch h) fun h => by simp at h
  | cons c cs ih =>
      rw [halvesChars?]
      by_cases hc : c = sep
      · rw [if_pos hc, hc]
        cases head with
        | nil => simp [eq_comm]
        | cons d head =>
            refine iff_of_false (fun h => nomatch h) fun h => ?_
            injection h.1 with hd
            exact h.2 (hd ▸ List.mem_cons_self)
      · rw [if_neg hc, Option.map_eq_some_iff]
        cases head with
        | nil =>
            refine iff_of_false ?_ fun h => hc (List.cons.inj h.1).1
            rintro ⟨h, -, heq⟩
            exact nomatch congrArg Prod.fst heq
        | cons d head =>
            constructor
            · rintro ⟨⟨head', tail'⟩, hh, heq⟩
              injection heq with h1 h2
              injection h1 with h0 h1
              subst h0 h1 h2
              obtain ⟨rfl, hnot⟩ := ih.mp hh
              exact ⟨rfl, fun hm => (List.mem_cons.mp hm).elim (fun h => hc h.symm) hnot⟩
            · rintro ⟨heq, hnot⟩
              injection heq with h0 h1
              subst h0
              exact ⟨(head, tail), ih.mpr ⟨h1, fun hm => hnot (List.mem_cons_of_mem _ hm)⟩, rfl⟩

/-- A text without the separator has no halves. -/
theorem halves?_eq_none {sep : Char} {s : String} : halves? sep s = none ↔ sep ∉ s.toList := by
  rw [halves?, Option.map_eq_none_iff, halvesChars?_eq_none]

/-- The halves stand around the first separator. -/
theorem halves?_eq_some {sep : Char} {s head tail : String} :
    halves? sep s = some (head, tail) ↔
      s.toList = head.toList ++ sep :: tail.toList ∧ sep ∉ head.toList := by
  rw [← halvesChars?_eq_some, halves?, Option.map_eq_some_iff]
  constructor
  · rintro ⟨⟨h, t⟩, hh, heq⟩
    injection heq with h1 h2
    rw [← h1, ← h2, String.toList_ofList, String.toList_ofList]
    exact hh
  · intro h
    exact ⟨_, h, by rw [String.ofList_toList, String.ofList_toList]⟩

/-- The same for texts, where the separator is a dot. -/
theorem halves?_dot {s head tail : String} :
    halves? '.' s = some (head, tail) ↔ s = head ++ "." ++ tail ∧ '.' ∉ head.toList := by
  have htext : (head ++ "." ++ tail).toList = head.toList ++ '.' :: tail.toList := by
    simp [String.toList_append]
  rw [halves?_eq_some, ← htext, String.toList_inj]

end Text

namespace OrderedMap

variable {α β : Type} [DecidableEq α] {key : α} {value : β}

/-- In a map made from a list, the last pair of a key counts. -/
theorem get?_ofList {entries : List (α × β)} :
    (ofList entries).get? key = some value ↔ LastWith (·.1 = key) entries (key, value) := by
  induction entries using List.reverseRecOn with
  | nil => exact iff_of_false (fun h => nomatch h) fun ⟨before, after, h, _⟩ => by simp at h
  | append_singleton entries e ih =>
      rw [ofList_concat, get?_put, lastWith_concat, ← ih]
      obtain ⟨k, v⟩ := e
      by_cases hk : key = k
      · subst hk
        simp [eq_comm]
      · simp [hk, Ne.symm hk]

end OrderedMap

-- ── What names stand for ──────────────────────────────────────────────────────

/-- A name on an entity stands for a relation: the first with that stored name, or, if none has it,
    the first with that accessor. -/
inductive Entity.Calls (t : Entity) (name : String) (c : Relation) : Prop
  | stored (first : FirstWith (·.storedName? = some name) t.relations c)
  | accessor (unnamed : ∀ r ∈ t.relations, r.storedName? ≠ some name)
      (first : FirstWith (·.accessor? = some name) t.relations c)

/-- A path on an entity leads to a field: directly, or from its first dot on through a relation
    whose last pair with the foreign field has a local field of the entity. -/
inductive Entity.Reaches (t : Entity) (path : String) : Prop
  | direct (plain : '.' ∉ path.toList) (field : ∃ f ∈ t.fields, f.name = path)
  | chained {head tail : String} {c : Relation} {pair : Reference}
      (dotted : path = head ++ "." ++ tail) (first : '.' ∉ head.toList) (called : t.Calls head c)
      (last : LastWith (·.foreignField = tail) c.references pair)
      (field : ∃ f ∈ t.fields, f.name = pair.localField)

/-- A relation points at an entity: the one it is bound to, or, if it is not bound, the first of
    that short name, or, if there is none, the first of that qualified name. -/
inductive Relation.PointsAt (r : Relation) (db : Database) (t : Entity) : Prop
  | bound {position : Nat} (bound : r.bound = some position)
      (there : db.entities[position]? = some t)
  | shortName (unbound : r.bound = none) (first : FirstWith (·.name = r.target) db.entities t)
  | fullName (unbound : r.bound = none) (unnamed : ∀ e ∈ db.entities, e.name ≠ r.target)
      (first : FirstWith (·.fullName = r.target) db.entities t)

/-- A relation of an owner has pairs and a target, and both sides of all pairs lead to fields. -/
structure Relation.Resolvable (r : Relation) (db : Database) (owner : Entity) : Prop where
  references : r.references ≠ []
  locals : ∀ name ∈ r.localFields, ∃ f ∈ owner.fields, f.name = name
  target : ∃ t, r.PointsAt db t ∧ ∀ path ∈ r.foreignFields, t.Reaches path

/-- The first check that a relation of an owner fails. Every check stands behind those before it:
    pairs, the target, local fields from left to right, foreign fields from left to right. -/
inductive Relation.Fails (r : Relation) (db : Database) (owner : Entity) : BuildStep → Prop
  | noReferences (empty : r.references = []) : Fails r db owner .noReferences
  | missingTarget (pairs : r.references ≠ []) (nowhere : ∀ t, ¬ r.PointsAt db t) :
      Fails r db owner .missingTarget
  | localField {t : Entity} {name : String} (pairs : r.references ≠ []) (target : r.PointsAt db t)
      (first : FirstWith (fun name => ¬ ∃ f ∈ owner.fields, f.name = name) r.localFields name) :
      Fails r db owner (.localField name)
  | foreignRelation {t : Entity} {head tail : String} (pairs : r.references ≠ [])
      (target : r.PointsAt db t)
      (locals : ∀ name ∈ r.localFields, ∃ f ∈ owner.fields, f.name = name)
      (first : FirstWith (¬ t.Reaches ·) r.foreignFields (head ++ "." ++ tail))
      (plain : '.' ∉ head.toList) (unknown : ∀ c, ¬ t.Calls head c) :
      Fails r db owner (.foreignRelation head (head ++ "." ++ tail))
  | foreignField {t : Entity} {path : String} (pairs : r.references ≠ []) (target : r.PointsAt db t)
      (locals : ∀ name ∈ r.localFields, ∃ f ∈ owner.fields, f.name = name)
      (first : FirstWith (¬ t.Reaches ·) r.foreignFields path)
      (known : ∀ head tail, path = head ++ "." ++ tail → '.' ∉ head.toList → ∃ c, t.Calls head c) :
      Fails r db owner (.foreignField path)

namespace Entity

variable {t : Entity} {path : String}

/-- The look-up of a relation finds what the name stands for. -/
theorem relation?_eq_some {name : String} {c : Relation} :
    t.relation? name = some c ↔ t.Calls name c := by
  rw [relation?, find?_or_eq_some (fun _ => beq_iff_eq) (fun _ => beq_iff_eq)]
  constructor
  · rintro (first | ⟨unnamed, first⟩)
    · exact .stored first
    · exact .accessor unnamed first
  · rintro (first | ⟨unnamed, first⟩)
    · exact Or.inl first
    · exact Or.inr ⟨unnamed, first⟩

theorem field?_isSome {name : String} :
    (∃ f, t.field? name = some f) ↔ ∃ f ∈ t.fields, f.name = name := by
  rw [← hasField_iff, hasField, Option.isSome_iff_exists]

end Entity

/-- A relation maps the local field of the last pair with a foreign field onto it. -/
theorem Relation.localOf?_eq_some {c : Relation} {tail name : String} :
    c.localOf? tail = some name ↔
      ∃ pair, LastWith (·.foreignField = tail) c.references pair ∧ pair.localField = name := by
  rw [localOf?, foreignToLocal, OrderedMap.get?_ofList]
  constructor
  · rintro ⟨before, after, hsplit, -, hafter⟩
    obtain ⟨before', rest, hrefs, -, hrest⟩ := List.map_eq_append_iff.mp hsplit
    obtain ⟨pair, after', hpair, hname, hafter'⟩ := List.map_eq_cons_iff.mp hrest
    injection hname with htail hname
    refine ⟨pair, ⟨before', after', by rw [hrefs, hpair], htail, fun b hb => ?_⟩, hname⟩
    exact hafter (b.foreignField, b.localField) (hafter' ▸ List.mem_map.mpr ⟨b, hb, rfl⟩)
  · rintro ⟨pair, ⟨before, after, hrefs, htail, hafter⟩, rfl⟩
    refine ⟨before.map fun p => (p.foreignField, p.localField),
      after.map fun p => (p.foreignField, p.localField), ?_, rfl, fun b hb => ?_⟩
    · rw [hrefs, List.map_append, List.map_cons, htail]
    · obtain ⟨p, hp, rfl⟩ := List.mem_map.mp hb
      exact hafter p hp

/-- A path leads somewhere if it leads to some field. -/
theorem Entity.reaches_iff {t : Entity} {path : String} :
    t.Reaches path ↔ ∃ f, t.PathTo path f := by
  constructor
  · rintro (⟨plain, field⟩ | ⟨dotted, first, called, last, field⟩)
    · obtain ⟨f, hf⟩ := field?_isSome.mpr field
      exact ⟨f, .direct (Text.halves?_eq_none.mpr plain) hf⟩
    · obtain ⟨f, hf⟩ := field?_isSome.mpr field
      exact ⟨f, .chained (Text.halves?_dot.mpr ⟨dotted, first⟩) (relation?_eq_some.mpr called)
        (Relation.localOf?_eq_some.mpr ⟨_, last, rfl⟩) hf⟩
  · rintro ⟨f, ⟨plain, found⟩ | ⟨dotted, relation, mapped, found⟩⟩
    · exact .direct (Text.halves?_eq_none.mp plain) (field?_isSome.mp ⟨f, found⟩)
    · obtain ⟨hsplit, hfirst⟩ := Text.halves?_dot.mp dotted
      obtain ⟨pair, last, rfl⟩ := Relation.localOf?_eq_some.mp mapped
      exact .chained hsplit hfirst (relation?_eq_some.mp relation) last
        (field?_isSome.mp ⟨f, found⟩)

namespace Relation

variable {r : Relation} {db : Database} {owner t : Entity}

/-- The look-up of the target finds what the relation points at. -/
theorem targetEntity?_eq_some : r.targetEntity? db = some t ↔ r.PointsAt db t := by
  rw [targetEntity?]
  cases hb : r.bound with
  | some position =>
      constructor
      · exact fun h => .bound hb h
      · rintro (⟨bound, there⟩ | ⟨unbound, -⟩ | ⟨unbound, -, -⟩)
        · rw [hb] at bound
          injection bound with bound
          exact bound ▸ there
        · rw [hb] at unbound
          cases unbound
        · rw [hb] at unbound
          cases unbound
  | none =>
      dsimp only
      rw [Database.resolve?, Database.byName?, Database.byFullName?,
        find?_or_eq_some (fun _ => beq_iff_eq) (fun _ => beq_iff_eq)]
      constructor
      · rintro (first | ⟨unnamed, first⟩)
        · exact .shortName hb first
        · exact .fullName hb unnamed first
      · rintro (⟨bound, -⟩ | ⟨-, first⟩ | ⟨-, unnamed, first⟩)
        · rw [hb] at bound
          cases bound
        · exact Or.inl first
        · exact Or.inr ⟨unnamed, first⟩

/-- The failures of a look-up: a dotted path starts with a relation that is not found, or it does
    not. -/
theorem foreignFieldIn_failures {path : String} {err : Error}
    (h : r.foreignFieldIn db t path = .error err) :
    (∃ head tail, Text.halves? '.' path = some (head, tail) ∧ t.relation? head = none ∧
      err = r.buildError db (.foreignRelation head path)) ∨
    ((∀ head tail, Text.halves? '.' path = some (head, tail) → ∃ c, t.relation? head = some c) ∧
      err = r.buildError db (.foreignField path)) := by
  rw [foreignFieldIn] at h
  split at h
  · rename_i hdot
    split at h
    · cases h
    · injection h with h
      refine Or.inr ⟨fun head tail hhalves => ?_, h.symm⟩
      rw [hdot] at hhalves
      cases hhalves
  · rename_i head tail hdot
    split at h
    · rename_i hnone
      injection h with h
      exact Or.inl ⟨head, tail, hdot, hnone, h.symm⟩
    · rename_i c hc
      split at h
      · cases h
      · injection h with h
        refine Or.inr ⟨fun head' tail' hhalves => ?_, h.symm⟩
        obtain ⟨rfl, -⟩ := Prod.mk.inj (Option.some.inj (hdot.symm.trans hhalves))
        exact ⟨c, hc⟩

/-- A path that leads nowhere is reported with the relation that is not found, or else alone. -/
theorem foreignFieldIn_eq_error {path : String} {err : Error}
    (h : r.foreignFieldIn db t path = .error err) :
    (∃ head tail, path = head ++ "." ++ tail ∧ '.' ∉ head.toList ∧ (∀ c, ¬ t.Calls head c) ∧
      err = r.buildError db (.foreignRelation head path)) ∨
    ((∀ head tail, path = head ++ "." ++ tail → '.' ∉ head.toList → ∃ c, t.Calls head c) ∧
      err = r.buildError db (.foreignField path)) := by
  rcases foreignFieldIn_failures h with ⟨head, tail, hdot, hnone, herr⟩ | ⟨hfound, herr⟩
  · obtain ⟨hsplit, hfirst⟩ := Text.halves?_dot.mp hdot
    refine Or.inl ⟨head, tail, hsplit, hfirst, fun c hcalls => ?_, herr⟩
    rw [Entity.relation?_eq_some.mpr hcalls] at hnone
    exact nomatch hnone
  · refine Or.inr ⟨fun head tail hsplit hfirst => ?_, herr⟩
    obtain ⟨c, hc⟩ := hfound head tail (Text.halves?_dot.mpr ⟨hsplit, hfirst⟩)
    exact ⟨c, Entity.relation?_eq_some.mp hc⟩

/-- The fields of the owner's side are found, or the first missing one is reported. -/
theorem localFieldsIn_cases (howner : r.owner? db = some owner) :
    ((∀ name ∈ r.localFields, ∃ f ∈ owner.fields, f.name = name) ∧
      ∃ fs, r.localFieldsIn db = .ok fs) ∨
    ∃ name, FirstWith (fun name => ¬ ∃ f ∈ owner.fields, f.name = name) r.localFields name ∧
      r.localFieldsIn db = .error (r.buildError db (.localField name)) := by
  have hgood : ∀ name, (∃ f ∈ owner.fields, f.name = name) ↔
      ∃ f, r.localFieldIn db owner name = .ok f := by
    intro name
    simp only [localFieldIn_eq_ok, Entity.field?_isSome]
  rw [localFieldsIn, ownerIn_eq_ok.mpr howner]
  dsimp only
  rcases mapM_cases hgood r.localFields with hfound | ⟨name, err, first, herr, hrun⟩
  · exact Or.inl hfound
  · refine Or.inr ⟨name, first, ?_⟩
    have hnone : owner.field? name = none := by
      rw [Option.eq_none_iff_forall_not_mem]
      exact fun f hf => first.mem.2 (Entity.field?_isSome.mp ⟨f, hf⟩)
    rw [localFieldIn, hnone] at herr
    injection herr with herr
    rw [hrun, herr]

/-- The fields of the target's side are found, or the first path that leads nowhere is reported. -/
theorem foreignFieldsIn_cases (ht : r.targetEntity? db = some t) :
    ((∀ path ∈ r.foreignFields, t.Reaches path) ∧ ∃ fs, r.foreignFieldsIn db = .ok fs) ∨
    ∃ path err, FirstWith (¬ t.Reaches ·) r.foreignFields path ∧
      r.foreignFieldIn db t path = .error err ∧ r.foreignFieldsIn db = .error err := by
  have hgood : ∀ path, t.Reaches path ↔ ∃ f, r.foreignFieldIn db t path = .ok f := by
    intro path
    simp only [foreignFieldIn_eq_ok, Entity.reaches_iff]
  rw [foreignFieldsIn, targetIn_eq_ok.mpr ht]
  exact mapM_cases hgood r.foreignFields

/-- A relation that fails a check is not resolvable. -/
theorem Fails.not_resolvable {step : BuildStep} (h : r.Fails db owner step) :
    ¬ r.Resolvable db owner := by
  intro hr
  -- there is one target only, so what is resolvable is resolvable on the one that fails
  have htarget : ∀ t, r.PointsAt db t → ∀ path ∈ r.foreignFields, t.Reaches path := by
    intro t ht
    obtain ⟨t', ht', hpaths⟩ := hr.target
    have heq := targetEntity?_eq_some.mpr ht'
    rw [targetEntity?_eq_some.mpr ht] at heq
    injection heq with heq
    exact heq ▸ hpaths
  cases h with
  | noReferences empty => exact hr.references empty
  | missingTarget _ nowhere =>
      obtain ⟨t, ht, -⟩ := hr.target
      exact nowhere t ht
  | localField _ _ first => exact first.mem.2 (hr.locals _ first.mem.1)
  | foreignRelation _ target _ first _ _ => exact first.mem.2 (htarget _ target _ first.mem.1)
  | foreignField _ target _ first _ => exact first.mem.2 (htarget _ target _ first.mem.1)

/-- Verification goes through for resolvable relations, and reports the first failing check of all
    others. -/
theorem verify_cases (howner : r.owner? db = some owner) :
    (r.Resolvable db owner ∧ ∃ id, r.verify db = .ok id) ∨
      ∃ step, r.Fails db owner step ∧ r.verify db = .error (r.buildError db step) := by
  rw [verify]
  by_cases hrefs : r.references = []
  · rw [hrefs]
    exact Or.inr ⟨.noReferences, .noReferences hrefs, rfl⟩
  · rw [List.isEmpty_eq_false_iff.mpr hrefs, if_neg Bool.false_ne_true]
    cases ht : r.targetEntity? db with
    | none =>
        have hmissing : r.targetIn db = .error (r.buildError db .missingTarget) := by
          rw [targetIn, ht]
        rw [hmissing]
        refine Or.inr ⟨.missingTarget, .missingTarget hrefs fun t hpoints => ?_, rfl⟩
        rw [targetEntity?_eq_some.mpr hpoints] at ht
        cases ht
    | some t =>
        have hpoints : r.PointsAt db t := targetEntity?_eq_some.mp ht
        rw [targetIn_eq_ok.mpr ht]
        dsimp only
        rcases localFieldsIn_cases howner with ⟨hlocals, ls, hls⟩ | ⟨name, first, hrun⟩
        · rw [hls]
          dsimp only
          rcases foreignFieldsIn_cases ht with ⟨hpaths, fs, hfs⟩ | ⟨path, err, first, herr, hrun⟩
          · rw [hfs]
            exact Or.inl ⟨⟨hrefs, hlocals, t, hpoints, hpaths⟩, t.id, rfl⟩
          · rw [hrun]
            rcases foreignFieldIn_eq_error herr with
              ⟨head, tail, rfl, plain, unknown, rfl⟩ | ⟨known, rfl⟩
            · exact Or.inr ⟨_, .foreignRelation hrefs hpoints hlocals first plain unknown, rfl⟩
            · exact Or.inr ⟨_, .foreignField hrefs hpoints hlocals first known, rfl⟩
        · rw [hrun]
          exact Or.inr ⟨.localField name, .localField hrefs hpoints first, rfl⟩

end Relation

end SchemaDdl
