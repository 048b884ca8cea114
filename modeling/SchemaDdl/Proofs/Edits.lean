import Mathlib.Data.List.DropRight
import Mathlib.Data.List.Induction
import SchemaDdl.Proofs.Reachability
import SchemaDdl.Schema.Edit

/-!
# What edits leave

After any run of edits, every part of a relation is what the last edits that concern it have made of
it: the pairs are those added since the last clearing, the target is the one set last, and the name
is the one set last, unless that is empty. A derived name is forgotten as soon as one of the edits
changes what it is derived from.

* **`RelationEdit.Reshapes`**: an edit after which a derived name has to be derived anew.
* **`Relation.references_editAll`**, **`Relation.targetEntity?_editAll`**,
  **`Relation.name_editAll`**: pairs, target and name after a run of edits.
* **`Relation.derivedName`**: a derived name as a function of owner, target and pairs alone.

The main result is that a derived name never outlives what it was derived from.
-/

namespace SchemaDdl

-- ── Runs of edits ─────────────────────────────────────────────────────────────

namespace RelationEdit

/-- The pair that an edit adds. -/
def pair? : RelationEdit → Option Reference
  | addReference pair => some pair
  | _ => none

/-- The name that an edit sets. -/
def name? : RelationEdit → Option String
  | setName name => some name
  | _ => none

/-- The target that an edit sets. -/
def target? : RelationEdit → Option String
  | setTarget target => some target
  | _ => none

/-- An edit changes the pairs or the target, or gives up a chosen name. -/
def Reshapes : RelationEdit → Prop
  | setName name => name = ""
  | addReference _ => True
  | clearReferences => True
  | setTarget _ => True

/-- The pairs that were added since the last clearing. -/
def pairsSinceClear (edits : List RelationEdit) : List Reference :=
  (edits.rtakeWhile (· ≠ clearReferences)).filterMap pair?

/-- The name that was set last. -/
def lastName? (edits : List RelationEdit) : Option String := (edits.filterMap name?).getLast?

/-- The target that was set last. -/
def lastTarget? (edits : List RelationEdit) : Option String := (edits.filterMap target?).getLast?

theorem getLast?_filterMap_concat {α β : Type} (f : α → Option β) (l : List α) (a : α) :
    ((l ++ [a]).filterMap f).getLast? = (f a).or (l.filterMap f).getLast? := by
  cases h : f a <;> simp [List.filterMap_append, h]

end RelationEdit

namespace RelationName

/-- An empty text is no explicit name. -/
theorem explicit?_ofText (name : String) :
    (ofText name).explicit? = if name = "" then none else some name := by
  by_cases hempty : name = ""
  · rw [if_pos hempty, hempty]
    rfl
  · rw [if_neg hempty, ofText, if_neg (mt String.isEmpty_iff.mp hempty)]
    rfl

theorem explicit?_reset (n : RelationName) : n.reset.explicit? = n.explicit? := by
  cases n <;> rfl

/-- What is set and does not choose a name leaves none. -/
theorem ofText_eq_auto {name : String} (h : (ofText name).explicit? = none) :
    ofText name = .auto none := by
  rw [ofText] at h ⊢
  split at h
  · rename_i hempty
    rw [if_pos hempty]
  · exact nomatch h

/-- Where no name is chosen, forgetting the derived one leaves none. -/
theorem reset_eq_auto {n : RelationName} (h : n.reset.explicit? = none) : n.reset = .auto none := by
  cases n with
  | explicit name => exact nomatch h
  | auto fixed => rfl

end RelationName

namespace Relation

open RelationEdit

variable (r : Relation) (edits : List RelationEdit) (db : Database)

theorem editAll_concat (e : RelationEdit) :
    r.editAll (edits ++ [e]) = (r.editAll edits).edit e := by
  rw [editAll, List.foldl_append]
  rfl

/-- Edits do not move a relation. -/
theorem id_editAll : (r.editAll edits).id = r.id := by
  induction edits using List.reverseRecOn with
  | nil => rfl
  | append_singleton edits e ih =>
      rw [editAll_concat, ← ih]
      cases e <;> rfl

/-- The pairs are those that were there, unless they were cleared, and those added since. -/
theorem references_editAll : (r.editAll edits).references =
    (if .clearReferences ∈ edits then [] else r.references) ++ pairsSinceClear edits := by
  induction edits using List.reverseRecOn with
  | nil => exact (List.append_nil _).symm
  | append_singleton edits e ih =>
      rw [editAll_concat, pairsSinceClear, List.rtakeWhile_concat]
      cases e with
      | clearReferences => simp [edit, clearReferences]
      | addReference pair =>
          simp [edit, addReference, ih, pairsSinceClear, pair?, List.append_assoc]
      | setName name => simp [edit, setName, ih, pairsSinceClear, pair?]
      | setTarget target => simp [edit, setTarget, ih, pairsSinceClear, pair?]

/-- A target that was set is looked up by its name; without any the relation leads where it led. -/
theorem targetEntity?_editAll : (r.editAll edits).targetEntity? db =
    (lastTarget? edits).elim (r.targetEntity? db) db.resolve? := by
  induction edits using List.reverseRecOn with
  | nil => rfl
  | append_singleton edits e ih =>
      rw [editAll_concat, lastTarget?, getLast?_filterMap_concat]
      cases e with
      | setTarget target => rfl
      | setName name => exact ih
      | addReference pair => exact ih
      | clearReferences => exact ih

-- ── Names ─────────────────────────────────────────────────────────────────────

/-- The name that the author has chosen in the end: the one that was set last, unless it is empty,
    or, where none was set, the one from before. -/
def chosenName? : Option String :=
  match lastName? edits with
  | some name => if name = "" then none else some name
  | none => r.name.explicit?

/-- A chosen name stays until another one is set. -/
theorem explicit?_name_editAll :
    (r.editAll edits).name.explicit? = r.chosenName? edits := by
  induction edits using List.reverseRecOn with
  | nil => rfl
  | append_singleton edits e ih =>
      rw [editAll_concat, chosenName?, lastName?, getLast?_filterMap_concat]
      cases e with
      | setName name => exact RelationName.explicit?_ofText name
      | addReference pair => exact (RelationName.explicit?_reset _).trans ih
      | clearReferences => exact (RelationName.explicit?_reset _).trans ih
      | setTarget target => exact (RelationName.explicit?_reset _).trans ih

variable {r edits}

/-- Where no name is chosen in the end, none is stored after any edit. -/
theorem name_editAll_of_unchosen (hchosen : r.chosenName? edits = none) (hne : edits ≠ []) :
    (r.editAll edits).name = .auto none := by
  rw [← explicit?_name_editAll] at hchosen
  obtain ⟨before, e, rfl⟩ := (List.eq_nil_or_concat edits).resolve_left hne
  rw [List.concat_eq_append, editAll_concat] at hchosen ⊢
  cases e with
  | setName name => exact RelationName.ofText_eq_auto hchosen
  | addReference pair => exact RelationName.reset_eq_auto hchosen
  | clearReferences => exact RelationName.reset_eq_auto hchosen
  | setTarget target => exact RelationName.reset_eq_auto hchosen

variable (r edits)

/-- The name that is derived from an owner, a target and pairs. It starts with the owner's table and
    ends in a digest of the target's table and of the fields on both sides. -/
def derivedName (owner target : Option Entity) (pairs : List Reference) : String :=
  let signature := Text.join ":" ((target.map (·.fullTable)).toList ++
    [Text.join "," (pairs.map (·.localField)), Text.join "," (pairs.map (·.foreignField))])
  let hash := Digest.shortDigest (Text.lower signature)
  match owner with
  | some owner => Text.concat [owner.table, "_fk_", hash]
  | none => Text.concat ["fk_", hash]

theorem autoName_eq (r : Relation) (db : Database) :
    r.autoName db = derivedName (r.owner? db) (r.targetEntity? db) r.references := rfl

/-- A derived name never outlives what it was derived from. Whatever state a relation is in, after a
    run of edits it has the name that was chosen last, if there is one. Otherwise, once an edit
    changes pairs or target or gives a chosen name up, no name is stored any more, and the name is
    derived from the pairs, the target and the owner as they are now. A target that was set is
    looked up by its name, whatever the relation was bound to. -/
theorem nameIn_editAll :
    (∀ name, r.chosenName? edits = some name →
      (r.editAll edits).storedName? = some name ∧ (r.editAll edits).nameIn db = name) ∧
    (r.chosenName? edits = none → (∃ e ∈ edits, e.Reshapes) →
      (r.editAll edits).storedName? = none ∧
      (r.editAll edits).nameIn db = (r.editAll edits).autoName db ∧
      (r.editAll edits).autoName db = derivedName (r.owner? db)
        ((lastTarget? edits).elim (r.targetEntity? db) db.resolve?)
        ((if .clearReferences ∈ edits then [] else r.references) ++ pairsSinceClear edits)) ∧
    ∀ target, lastTarget? edits = some target →
      (r.editAll edits).targetEntity? db = db.resolve? target := by
  refine ⟨fun name hchosen => ?_, fun hchosen hreshaped => ?_, fun target htarget => ?_⟩
  · rw [← explicit?_name_editAll] at hchosen
    have hstored : (r.editAll edits).storedName? = some name := by
      rw [storedName?]
      generalize (r.editAll edits).name = n at hchosen ⊢
      cases n with
      | explicit chosen => exact hchosen
      | auto fixed => cases hchosen
    exact ⟨hstored, by rw [nameIn, hstored]; rfl⟩
  · obtain ⟨e, he, -⟩ := hreshaped
    have hstored : (r.editAll edits).storedName? = none := by
      rw [storedName?, name_editAll_of_unchosen hchosen (List.ne_nil_of_mem he)]
      rfl
    have howner : (r.editAll edits).owner? db = r.owner? db := by
      rw [owner?, owner?, id_editAll]
    refine ⟨hstored, by rw [nameIn, hstored]; rfl, ?_⟩
    rw [autoName_eq, howner, targetEntity?_editAll, references_editAll]
  · rw [targetEntity?_editAll, htarget]
    rfl

/-- A relation of the community has a fixed name and a binding. With another target it has neither
    any more; and with a chosen name it keeps that, also without pairs. -/
theorem nameIn_editAll_community : ∃ r ∈ Database.community.relations, ∃ fixed,
    r.storedName? = some fixed ∧ r.hasName = false ∧ r.bound.isSome = true ∧
    (r.editAll [.setTarget "Membership"]).storedName? = none ∧
    (r.editAll [.setTarget "Membership"]).nameIn Database.community ≠ fixed ∧
    (r.editAll [.setTarget "Membership"]).targetEntity? Database.community =
      Database.community.resolve? "Membership" ∧
    (r.editAll [.setName "link", .clearReferences]).nameIn Database.community = "link" := by
  obtain ⟨r, hr, fixed, hfixed, hname, hbound, hchosen, hother⟩ :
      ∃ r ∈ Database.community.relations, ∃ fixed ∈ r.storedName?,
        r.hasName = false ∧ r.bound.isSome = true ∧
        r.chosenName? [.setTarget "Membership"] = none ∧
        (r.editAll [.setTarget "Membership"]).autoName Database.community ≠ fixed := by
    decide +kernel
  obtain ⟨-, hderived, htarget⟩ := nameIn_editAll r [.setTarget "Membership"] Database.community
  obtain ⟨hnone, hname', -⟩ := hderived hchosen ⟨_, List.mem_singleton.mpr rfl, trivial⟩
  obtain ⟨hkept, -⟩ := nameIn_editAll r [.setName "link", .clearReferences] Database.community
  exact ⟨r, hr, fixed, hfixed, hname, hbound, hnone, hname' ▸ hother, htarget _ rfl,
    (hkept "link" rfl).2⟩

end Relation

end SchemaDdl
