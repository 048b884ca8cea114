import SchemaDdl.Proofs.Origins
import SchemaDdl.Proofs.StudlyNames

/-!
# Targets by the names of loaded entities

The loader puts the names of entities and the targets of relations in StudlyCase, each for itself. A
document that names a target by the name that the loaded entity has gets it in StudlyCase once more,
and that is another name unless StudlyCase leaves it as it is.

* **`Json.relationObjects`**: the objects that the relations of a document are read from.
* **`Database.resolve?_name_eq_iff`**: a name without dots stands for entities of that name only.
* **`Document.targets_of_load`**: a target that is spelled like a loaded entity leads to an entity
  of that name if and only if the name is in StudlyCase.
-/

namespace SchemaDdl

/-- The objects of all relations of all entities, in order. -/
def Json.relationObjects (v : Json) : List Json :=
  (((v.member? "database").getD v).childObjects "entities" "entity").flatMap
    (·.childObjects "relations" "relation")

/-- A qualified name without dots is a name without a schema. -/
theorem Entity.name_of_fullName {e : Entity} {name : String} (hdot : '.' ∉ name.toList)
    (h : e.fullName = name) : e.name = name := by
  cases hschema : e.schema with
  | none => rwa [fullName, hschema] at h
  | some schema =>
      refine absurd ?_ hdot
      rw [← h, fullName, hschema]
      simp [qualified, Text.concat]

/-- A name without dots stands for entities of that name only, and for one if there is one. -/
theorem Database.resolve?_name_eq_iff {db : Database} {e : Entity} (he : e ∈ db.entities)
    {name : String} (hdot : '.' ∉ name.toList) :
    (∃ t, db.resolve? name = some t ∧ t.name = e.name) ↔ name = e.name := by
  constructor
  · rintro ⟨t, ht, htname⟩
    rw [← htname]
    rcases Option.or_eq_some_iff.mp ht with hshort | ⟨-, hfull⟩
    · exact (eq_of_beq (List.find?_some hshort :)).symm
    · exact (Entity.name_of_fullName hdot (eq_of_beq (List.find?_some hfull :))).symm
  · rintro rfl
    have hsome : (db.byName? e.name).isSome = true :=
      List.find?_isSome.mpr ⟨e, he, beq_self_eq_true e.name⟩
    obtain ⟨t, ht⟩ := Option.isSome_iff_exists.mp hsome
    refine ⟨t, ?_, eq_of_beq (List.find?_some ht :)⟩
    rw [resolve?, ht, Option.some_or]

namespace Document

variable {v : Json} {db : Database}

/-- The relations of a loaded database are read from the objects of the document, in order. -/
theorem relations_readFrom_of_load (h : load v = .ok db) :
    List.Forall₂ (fun w r => Relation.ReadFrom w r) v.relationObjects db.relations := by
  simp only [load, databaseOf, bind_eq_ok] at h
  obtain ⟨n, hnode, head, hhead, nodes, hnodes, h⟩ := h
  have hn := reads_databaseNode hnode
  split at h
  · cases h
  · obtain ⟨-, -, -, hempty, hflag⟩ := databaseHeadOf_eq_ok hn hhead
    obtain ⟨entities, rfl, hentities⟩ := entities_of_foldlM hflag h
    have hread : ∀ w child e, child.Reads w → (∃ e' i, entityOf child = .ok e' ∧ e'.name ≠ "" ∧
        e = Database.placed (head.inherited e') i) → Entity.ReadFrom head.schema w e := by
      rintro w child _ hchild ⟨e', i, he, -, rfl⟩
      exact readFrom_of_registered (readFrom_of_entityOf hchild he) head i
    have hgives := Json.Gives.of_children hn hnodes hread hentities
    rw [Database.relations, hempty, List.nil_append, Json.relationObjects]
    refine List.rel_flatMap hgives fun w e he => ?_
    exact he.2.relations.imp fun w' r hr => hr.2

/-- A target that is spelled like a loaded entity is put in StudlyCase once more. It is the name of
    the entity, and leads to an entity of that name, if and only if the name is in StudlyCase by the
    case of its letters. -/
theorem targets_of_load (h : load v = .ok db) :
    List.Forall₂ (fun w r => ∀ e ∈ db.entities, w.member? "target" = some (.text e.name) →
        r.target = Text.studly e.name ∧
        (r.target = e.name ↔ Text.IsStudly e.name.toList) ∧
        ((∃ t, r.targetEntity? db = some t ∧ t.name = e.name) ↔ Text.IsStudly e.name.toList))
      v.relationObjects db.relations ∧
    ∀ s, Text.studly (Text.studly s) = Text.studly s ↔ Text.IsStudly (Text.studly s).toList := by
  refine ⟨?_, fun s => Text.studly_eq_self_iff (Text.studly s)⟩
  refine (relations_readFrom_of_load h).imp fun w r hread e he hspelled => ?_
  obtain ⟨s, ⟨hmember, -⟩, htarget⟩ := hread.target
  rw [hspelled] at hmember
  injection hmember with hsame
  injection hsame with hsame
  rw [← hsame] at htarget
  rw [Relation.targetEntity?, hread.bound, htarget,
    Database.resolve?_name_eq_iff he (Text.dot_not_mem_studly e.name), Text.studly_eq_self_iff]
  exact ⟨rfl, Iff.rfl, Iff.rfl⟩

/-- A document with one entity that refers to itself by a target that is spelled as given. -/
def selfReferring (name target : String) : Json :=
  .object [("name", .text "library"), ("entity", .object [("name", .text name),
    ("field", .object [("name", .text "id")]),
    ("relation", .object [("target", .text target),
      ("reference", .object [("local", .text "id"), ("foreign", .text "id")])])])]

/-- `book_author` is `BookAuthor` when it is loaded, and `BookAuthor` leads to it. -/
theorem targets_of_load_bookAuthor :
    ∃ db, load (selfReferring "book_author" "BookAuthor") = .ok db ∧
      db.entities.map (·.name) = ["BookAuthor"] ∧ Text.IsStudly "BookAuthor".toList ∧
      List.Forall₂ (fun w r => ∀ e ∈ db.entities, w.member? "target" = some (.text e.name) →
          r.target = Text.studly e.name ∧
          (r.target = e.name ↔ Text.IsStudly e.name.toList) ∧
          ((∃ t, r.targetEntity? db = some t ∧ t.name = e.name) ↔ Text.IsStudly e.name.toList))
        (selfReferring "book_author" "BookAuthor").relationObjects db.relations := by
  have hrun : (match load (selfReferring "book_author" "BookAuthor") with
      | .ok db => decide (db.entities.map (·.name) = ["BookAuthor"])
      | .error _ => false) = true := by decide +kernel
  cases hload : load (selfReferring "book_author" "BookAuthor") with
  | error e =>
      rw [hload] at hrun
      exact nomatch hrun
  | ok db =>
      rw [hload] at hrun
      exact ⟨db, rfl, of_decide_eq_true hrun, by decide +kernel, (targets_of_load hload).1⟩

/-- `a_b` is `AB` when it is loaded, and `AB` is one word of two capitals: the target is `Ab`. -/
theorem targets_respelled :
    ¬ ∀ (v : Json) (db : Database), load v = .ok db →
      List.Forall₂ (fun w r => ∀ e ∈ db.entities, w.member? "target" = some (.text e.name) →
          r.target = e.name ∧ ∃ t, r.targetEntity? db = some t ∧ t.name = e.name)
        v.relationObjects db.relations := by
  intro h
  have hrun : (match load (selfReferring "a_b" "AB") with
      | .ok db =>
          decide (db.entities.map (·.name) = ["AB"] ∧ db.relations.map (·.target) = ["Ab"])
      | .error _ => false) = true := by decide +kernel
  have hspelled : (selfReferring "a_b" "AB").relationObjects.map (·.member? "target") =
      [some (.text "AB")] := by rfl
  cases hload : load (selfReferring "a_b" "AB") with
  | error e =>
      rw [hload] at hrun
      exact nomatch hrun
  | ok db =>
      rw [hload] at hrun
      obtain ⟨hnames, htargets⟩ := of_decide_eq_true hrun
      obtain ⟨e, he, hname⟩ := List.mem_map.mp (hnames ▸ List.mem_singleton_self "AB")
      obtain ⟨r, hr, htarget⟩ := List.mem_map.mp (htargets ▸ List.mem_singleton_self "Ab")
      obtain ⟨w, hw, hkept⟩ := forall₂_mem_right (h _ db hload) hr
      have hw' : w.member? "target" = some (.text "AB") :=
        List.mem_singleton.mp (hspelled ▸ List.mem_map_of_mem hw)
      have heq := (hkept e he (by rw [hw', hname])).1
      rw [htarget, hname] at heq
      exact absurd heq (by decide)

end Document

end SchemaDdl
