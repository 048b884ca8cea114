import SchemaDdl.Proofs.Edits
import SchemaDdl.Proofs.PairOrder

/-!
# The two mappings of a relation

A relation is a list of pairs, but most questions about it go through two maps that are made from
the list: from local to foreign fields, and back. A name that stands in several pairs keeps its
first place and gets its last partner, so the two maps need not be each other's inverse. They are,
in the same order too, where no name is repeated.

* **`OrderedMap.Holds`**: a map said by the list of pairs that it was made from.
* **`Relation.Maps`**: all that the two mappings of a relation with certain pairs answer.

The main result is that any run of edits on a new relation leaves it with the mappings of the pairs
that were added since they were cleared last.
-/

namespace SchemaDdl

/-- A map holds a list of pairs: it has their keys in order of first occurrence, and under each key
    the value of its last pair. -/
structure OrderedMap.Holds {α β : Type} [DecidableEq α] (m : OrderedMap α β)
    (pairs : List (α × β)) : Prop where
  keys : m.keys = (pairs.map Prod.fst).eraseDups
  last : ∀ e ∈ m.entries, LastWith (·.1 = e.1) pairs e

/-- A map that is built from pairs holds what they say, the last pair of a key counting. -/
theorem OrderedMap.holds_ofList {α β : Type} [DecidableEq α] (pairs : List (α × β)) :
    (ofList pairs).Holds pairs where
  keys := keys_ofList pairs
  last := fun _ he => get?_ofList.mp ((get?_eq_some_iff (nodup_keys_ofList pairs)).mpr he)

namespace Relation

open RelationEdit

variable {r : Relation}

/-- A relation has certain pairs, and its mappings are those of the pairs. -/
structure Maps (r : Relation) (pairs : List Reference) : Prop where
  lengths : r.localFields.length = r.foreignFields.length
  references : r.localFields.zip r.foreignFields =
    pairs.map fun p => (p.localField, p.foreignField)
  localToForeign : r.localToForeign.Holds (pairs.map fun p => (p.localField, p.foreignField))
  foreignToLocal : r.foreignToLocal.Holds (pairs.map fun p => (p.foreignField, p.localField))
  /-- A look-up answers with what the mapping holds, and with nothing else. -/
  foreignOf? : ∀ name field,
    r.foreignOf? name = some field ↔ (name, field) ∈ r.localToForeign.entries
  localOf? : ∀ field name,
    r.localOf? field = some name ↔ (field, name) ∈ r.foreignToLocal.entries
  /-- Without repeated names the mappings are inverse to one another, entry by entry. -/
  inverted : r.Distinct → r.localToForeign.entries.map Prod.swap = r.foreignToLocal.entries
  thereAndBack : r.Distinct → ∀ name ∈ r.localFields,
    (r.foreignOf? name).bind r.localOf? = some name
  backAndThere : r.Distinct → ∀ field ∈ r.foreignFields,
    (r.localOf? field).bind r.foreignOf? = some field

namespace Distinct

/-- Without repeated names each mapping is the list of pairs, seen from its side. -/
theorem swap_entries (h : r.Distinct) :
    r.localToForeign.entries.map Prod.swap = r.foreignToLocal.entries := by
  have hlocals :
      ((r.references.map fun p => (p.localField, p.foreignField)).map Prod.fst).Nodup := by
    rw [List.map_map]
    exact h.locals
  have hforeigns : ((r.references.map fun p => (p.foreignField, p.localField)).map
      Prod.fst).Nodup := by
    rw [List.map_map]
    exact h.foreigns
  rw [localToForeign, foreignToLocal, OrderedMap.entries_ofList hlocals,
    OrderedMap.entries_ofList hforeigns, List.map_map]
  rfl

/-- Without repeated names, the partner of the partner of a field is the field. -/
theorem partners (h : r.Distinct) {p : Reference} (hp : p ∈ r.references) :
    r.foreignOf? p.localField = some p.foreignField ∧
      r.localOf? p.foreignField = some p.localField := by
  have hforeign := h.oneToOne.foreignOf?_iff_mem.mpr hp
  exact ⟨hforeign, h.oneToOne.foreignOf?_iff_localOf?.mp hforeign⟩

end Distinct

/-- The mappings of a relation are those of its pairs. -/
theorem maps_references (r : Relation) : r.Maps r.references where
  lengths := by rw [localFields, foreignFields, List.length_map, List.length_map]
  references := List.zip_map' ..
  localToForeign := OrderedMap.holds_ofList _
  foreignToLocal := OrderedMap.holds_ofList _
  foreignOf? := fun _ _ => OrderedMap.get?_eq_some_iff (OrderedMap.nodup_keys_ofList _)
  localOf? := fun _ _ => OrderedMap.get?_eq_some_iff (OrderedMap.nodup_keys_ofList _)
  inverted := Distinct.swap_entries
  thereAndBack := by
    intro h name hname
    obtain ⟨p, hp, rfl⟩ := List.mem_map.mp hname
    obtain ⟨hforeign, hlocal⟩ := h.partners hp
    rw [hforeign]
    exact hlocal
  backAndThere := by
    intro h field hfield
    obtain ⟨p, hp, rfl⟩ := List.mem_map.mp hfield
    obtain ⟨hforeign, hlocal⟩ := h.partners hp
    rw [hlocal]
    exact hforeign

/-- After any run of edits, a relation that was new has exactly the pairs that were added since they
    were cleared last, in their order, and the mappings of these pairs. -/
theorem maps_editAll (target : String) (edits : List RelationEdit) :
    ((toTarget target).editAll edits).Maps (pairsSinceClear edits) := by
  have hpairs : ((toTarget target).editAll edits).references = pairsSinceClear edits := by
    have hnew : (toTarget target).references = [] := rfl
    rw [references_editAll, hnew, ite_self, List.nil_append]
  rw [← hpairs]
  exact maps_references _

/-- A name in several pairs keeps its place and takes its last partner, so that the way there and
    back can end elsewhere. -/
example :
    let r := (toTarget "Left").editAll [.addReference ⟨"q", "z"⟩, .clearReferences,
      .addReference ⟨"a", "x"⟩, .addReference ⟨"b", "x"⟩, .addReference ⟨"a", "y"⟩]
    r.localToForeign.entries = [("a", "y"), ("b", "x")] ∧
      r.foreignToLocal.entries = [("x", "b"), ("y", "a")] := by decide

end Relation

end SchemaDdl
