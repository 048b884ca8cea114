import Mathlib.Data.List.Nodup
import SchemaDdl.Proofs.Verification
import SchemaDdl.Proofs.WellFormed

/-!
# Tests for the primary key

Whether the fields of a relation are a primary key is tested by counting names and looking each name
of the key up among them. That is enough, because the fields of an entity have distinct names: as
many names as the key has, all of the key among them, can only be the key in some order, and none
of them occurs twice. A field whose name is in the key is then a field of the key.

* **`Entity.WellFormed.perm_primaryKeyNames`**: counting and looking up in one direction make a
  permutation.
* **`Entity.WellFormed.primaryKey_of_name`**: key fields are known by their names.
* **`Relation.isLocalKey_iff`**, **`Relation.isForeignKey_iff`**: both tests are exact.

The main result adds what follows for the fields behind the names.
-/

namespace SchemaDdl

namespace Entity.WellFormed

variable {e : Entity} {f : Field} {names : List String}

/-- No name occurs twice in a primary key. -/
theorem nodup_primaryKeyNames (h : e.WellFormed) : e.primaryKeyNames.Nodup :=
  h.distinct.sublist (List.filter_sublist.map _)

/-- Names are the key's names in some order if they are as many and all of the key is among
    them. -/
theorem perm_primaryKeyNames (h : e.WellFormed) :
    (e.primaryKeyNames.length == names.length && e.primaryKeyNames.all names.contains) = true ↔
      names.Perm e.primaryKeyNames := by
  rw [Bool.and_eq_true, beq_iff_eq, List.all_eq_true]
  simp only [List.contains_iff_mem]
  constructor
  · rintro ⟨hlength, hall⟩
    exact (perm_of_length_eq h.nodup_primaryKeyNames hlength hall).symm
  · exact fun hperm => ⟨hperm.length_eq.symm, fun _ hname => hperm.mem_iff.mpr hname⟩

/-- A field whose name is a name of the key is a field of the key. -/
theorem primaryKey_of_name (h : e.WellFormed) (hf : f ∈ e.fields)
    (hname : f.name ∈ e.primaryKeyNames) : f.primaryKey = true := by
  obtain ⟨g, hg, hsame⟩ := List.mem_map.mp hname
  obtain ⟨hmem, hkey⟩ := List.mem_filter.mp hg
  rw [← List.inj_on_of_nodup_map h.distinct hmem hf hsame]
  exact hkey

/-- Fields of an entity whose names are the key's names are all of them fields of the key. -/
theorem primaryKey_of_perm (h : e.WellFormed) {fs : List Field} (hfs : ∀ f ∈ fs, f ∈ e.fields)
    (hperm : (fs.map (·.name)).Perm e.primaryKeyNames) : ∀ f ∈ fs, f.primaryKey = true :=
  fun f hf => h.primaryKey_of_name (hfs f hf) (hperm.mem_iff.mp (List.mem_map_of_mem hf))

end Entity.WellFormed

/-- A name of the primary key is the name of a field. -/
theorem Entity.exists_field_of_key {e : Entity} {name : String} (h : name ∈ e.primaryKeyNames) :
    ∃ f, e.field? name = some f := by
  obtain ⟨f, hf, hname⟩ := List.mem_map.mp h
  exact field?_isSome.mpr ⟨f, (List.mem_filter.mp hf).1, hname⟩

namespace Relation

variable {r : Relation} {db : Database} {owner t : Entity} {fs : List Field}

-- ── The owner's side ──────────────────────────────────────────────────────────

/-- The local fields pass the test if they are the owner's primary key in some order. -/
theorem isLocalKey_iff (howner : r.owner? db = some owner) (hw : owner.WellFormed) :
    r.isLocalKey db = true ↔ r.localFields.Perm owner.primaryKeyNames := by
  rw [isLocalKey, howner]
  exact hw.perm_primaryKeyNames

/-- Local fields that are the primary key are found, and all of them are fields of the key. -/
theorem localFieldsIn_of_perm (howner : r.owner? db = some owner) (hw : owner.WellFormed)
    (hperm : r.localFields.Perm owner.primaryKeyNames) :
    ∃ fs, r.localFieldsIn db = .ok fs ∧ ∀ f ∈ fs, f.primaryKey = true := by
  have hfound : ∀ name ∈ r.localFields, ∃ f, r.localFieldIn db owner name = .ok f := by
    intro name hname
    obtain ⟨f, hf⟩ := Entity.exists_field_of_key (hperm.mem_iff.mp hname)
    exact ⟨f, localFieldIn_eq_ok.mpr hf⟩
  obtain ⟨fs, hfs⟩ := exists_mapM hfound
  have hfields : r.localFieldsIn db = .ok fs := by
    rw [localFieldsIn, ownerIn_eq_ok.mpr howner]
    exact hfs
  have hnames := (localFieldsIn_eq_ok howner).mp hfields
  refine ⟨fs, hfields, hw.primaryKey_of_perm (fun f hf => ?_) ?_⟩
  · obtain ⟨name, -, hname⟩ := forall₂_mem_right hnames hf
    exact Entity.mem_of_field? hname
  · rw [Entity.map_name_of_field? hnames]
    exact hperm

/-- Where all local fields are key fields, the list of key fields among them is all of them. -/
theorem localKeys_eq_ok (h : r.localFieldsIn db = .ok fs) (hkey : ∀ f ∈ fs, f.primaryKey = true) :
    r.localKeys db = .ok fs := by
  rw [localKeys, h]
  exact congrArg Except.ok (List.filter_eq_self.mpr hkey)

/-- Key fields are required. -/
theorem allLocalRequired_eq_ok (h : r.localFieldsIn db = .ok fs)
    (hkey : ∀ f ∈ fs, f.primaryKey = true) : r.allLocalRequired db = .ok true := by
  rw [allLocalRequired, h]
  refine congrArg Except.ok (List.all_eq_true.mpr fun f hf => ?_)
  rw [Field.isNotNull, hkey f hf, Bool.or_true]

-- ── The target's side ─────────────────────────────────────────────────────────

/-- The foreign fields pass the test if there are a target and fields behind all paths, and the
    names of these fields are the target's primary key in some order. -/
theorem isForeignKey_iff (hw : db.WellFormed) :
    r.isForeignKey db = true ↔ ∃ t fs, r.targetEntity? db = some t ∧
      r.foreignFieldsIn db = .ok fs ∧ (fs.map (·.name)).Perm t.primaryKeyNames := by
  rw [isForeignKey]
  cases ht : r.targetEntity? db with
  | none => exact iff_of_false Bool.false_ne_true fun ⟨t, _, hnone, _⟩ => nomatch hnone
  | some t =>
      cases hf : r.foreignFieldsIn db with
      | error e => exact iff_of_false Bool.false_ne_true fun ⟨_, fs, _, herr, _⟩ => nomatch herr
      | ok fs =>
          have htest : (t.primaryKeyNames.length == (fs.map (·.name)).length &&
              t.primaryKeyNames.all (fs.map (·.name)).contains) = true ↔
                (fs.map (·.name)).Perm t.primaryKeyNames :=
            (hw t (mem_of_targetEntity? ht)).perm_primaryKeyNames
          rw [List.length_map] at htest
          constructor
          · exact fun h => ⟨t, fs, rfl, rfl, htest.mp h⟩
          · rintro ⟨t', fs', ht', hfs', hperm⟩
            cases ht'
            cases hfs'
            exact htest.mpr hperm

/-- Foreign fields that are the primary key are all of them fields of the key. -/
theorem primaryKey_of_foreign (hw : t.WellFormed) (ht : r.targetEntity? db = some t)
    (h : r.foreignFieldsIn db = .ok fs) (hperm : (fs.map (·.name)).Perm t.primaryKeyNames) :
    ∀ f ∈ fs, f.primaryKey = true := by
  refine hw.primaryKey_of_perm (fun f hf => ?_) hperm
  obtain ⟨path, -, hpath⟩ := forall₂_mem_right ((foreignFieldsIn_eq_ok ht).mp h) hf
  exact hpath.mem

/-- Where all foreign fields are key fields, the list of key fields among them is all of them. -/
theorem foreignKeys_eq_ok (h : r.foreignFieldsIn db = .ok fs)
    (hkey : ∀ f ∈ fs, f.primaryKey = true) : r.foreignKeys db = .ok fs := by
  rw [foreignKeys, h]
  exact congrArg Except.ok (List.filter_eq_self.mpr hkey)

end Relation

namespace Database

variable {db : Database} {owner : Entity} {r : Relation}

/-- Both key tests are exact. The local fields pass if they are the owner's primary key in some
    order, and then each of them is found on the owner, all of them are key fields, and none of them
    may be null. The foreign fields pass if a target and fields behind all paths are found and these
    fields are the target's primary key in some order, and then all of them are key fields. -/
theorem keyTests_exact (h : db.Reachable) (howner : owner ∈ db.entities)
    (hr : r ∈ owner.relations) :
    (r.isLocalKey db = true ↔ r.localFields.Perm owner.primaryKeyNames) ∧
    (r.isForeignKey db = true ↔ ∃ t fs, r.PointsAt db t ∧
      List.Forall₂ t.PathTo r.foreignFields fs ∧ (fs.map (·.name)).Perm t.primaryKeyNames) ∧
    (r.isLocalKey db = true → ∃ fs, List.Forall₂ (owner.field? · = some ·) r.localFields fs ∧
      r.localFieldsIn db = .ok fs ∧ r.localKeys db = .ok fs ∧ r.allLocalRequired db = .ok true) ∧
    (r.isForeignKey db = true →
      ∃ fs, r.foreignFieldsIn db = .ok fs ∧ r.foreignKeys db = .ok fs) := by
  have hfound : r.owner? db = some owner := h.sound.placed.owner?_eq howner hr
  have hw : owner.WellFormed := h.wellFormed owner howner
  have hlocal := Relation.isLocalKey_iff hfound hw
  have hforeign := Relation.isForeignKey_iff (r := r) h.wellFormed
  refine ⟨hlocal, ?_, fun hkey => ?_, fun hkey => ?_⟩
  · rw [hforeign]
    refine exists_congr fun t => exists_congr fun fs => ?_
    rw [← Relation.targetEntity?_eq_some]
    exact and_congr_right fun ht => by rw [Relation.foreignFieldsIn_eq_ok ht]
  · obtain ⟨fs, hfs, hall⟩ := Relation.localFieldsIn_of_perm hfound hw (hlocal.mp hkey)
    have hnames := (Relation.localFieldsIn_eq_ok hfound).mp hfs
    exact ⟨fs, hnames, hfs, Relation.localKeys_eq_ok hfs hall,
      Relation.allLocalRequired_eq_ok hfs hall⟩
  · obtain ⟨t, fs, ht, hfs, hperm⟩ := hforeign.mp hkey
    have hall := Relation.primaryKey_of_foreign
      (h.wellFormed t (Relation.mem_of_targetEntity? ht)) ht hfs hperm
    exact ⟨fs, hfs, Relation.foreignKeys_eq_ok hfs hall⟩

-- ── Seats, bookings and stubs ─────────────────────────────────────────────────

/-- A field of a composite key. -/
private def keyPart (name : String) : EntityChange :=
  .addField { Field.plain name .integer with primaryKey := true }

/-- A booking has the key of its seat in another order, and a stub has the key of its booking, which
    it refers to by way of the booking's own relation. -/
def boxOfficeHistory : List Operation := [
  .addEntity ⟨"Seat", [keyPart "row", keyPart "place"]⟩,
  .addEntity ⟨"Booking", [keyPart "place", keyPart "row",
    .addRelation { Relation.toTarget "Seat" with
      name := .explicit "seat", references := [⟨"row", "row"⟩, ⟨"place", "place"⟩] }]⟩,
  .addEntity ⟨"Stub", [keyPart "row", keyPart "place",
    .addRelation { Relation.toTarget "Booking" with
      references := [⟨"place", "seat.place"⟩, ⟨"row", "seat.row"⟩] }]⟩]

/-- The state that `boxOfficeHistory` leads to. -/
def boxOffice : Database := (named "box_office").runAll boxOfficeHistory

/-- The stub's relation passes both tests, with composite keys in another order and with paths
    through another relation. -/
theorem keyTests_exact_boxOffice :
    ∃ stub r, boxOffice.Reachable ∧ stub ∈ boxOffice.entities ∧ r ∈ stub.relations ∧
      r.foreignFields = ["seat.place", "seat.row"] ∧
      (r.isLocalKey boxOffice = true ∧ r.localFields.Perm stub.primaryKeyNames ∧
        ∃ fs, List.Forall₂ (stub.field? · = some ·) r.localFields fs ∧
          r.localFieldsIn boxOffice = .ok fs ∧ r.localKeys boxOffice = .ok fs ∧
          r.allLocalRequired boxOffice = .ok true) ∧
      r.isForeignKey boxOffice = true ∧
      (∃ t fs, r.PointsAt boxOffice t ∧ List.Forall₂ t.PathTo r.foreignFields fs ∧
        (fs.map (·.name)).Perm t.primaryKeyNames) ∧
      ∃ fs, r.foreignFieldsIn boxOffice = .ok fs ∧ r.foreignKeys boxOffice = .ok fs := by
  have hreach : boxOffice.Reachable := ⟨"box_office", boxOfficeHistory, rfl⟩
  obtain ⟨stub, hstub, r, hr, hpaths, hlocal, hforeign⟩ :
      ∃ stub ∈ boxOffice.entities, ∃ r ∈ stub.relations,
        r.foreignFields = ["seat.place", "seat.row"] ∧ r.isLocalKey boxOffice = true ∧
        r.isForeignKey boxOffice = true := by decide +kernel
  obtain ⟨hlocals, hforeigns, hlocalKeys, hforeignKeys⟩ := keyTests_exact hreach hstub hr
  exact ⟨stub, r, hreach, hstub, hr, hpaths, ⟨hlocal, hlocals.mp hlocal, hlocalKeys hlocal⟩,
    hforeign, hforeigns.mp hforeign, hforeignKeys hforeign⟩

end Database

end SchemaDdl
