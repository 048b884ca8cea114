import SchemaDdl.Proofs.Reachability
import Mathlib.Data.Set.Defs

/-!
# One-to-one relations

The graph calls a relation one-to-one for one of three reasons: its local fields are the primary
key, they are unique by an index, or the target points back. The last one says nothing about rows as
long as nothing enforces it. After finalizing, all three come down to uniqueness on the owner, and
uniqueness on the owner is what its name says: in a table that keeps its key and its unique indices,
no two rows agree on the local fields.

* **`Entity.Row`**, **`Entity.Respects`**: rows of a table, and tables that keep key and indices.
* **`Entity.Respects.uniqueOver`**: the test by length and membership is sound for rows. Names that
  occur twice do no harm, since only membership is needed.

The main result puts this together for the relations of a finalized database.
-/

namespace SchemaDdl

universe u

namespace Entity

-- ── Rows ──────────────────────────────────────────────────────────────────────

/-- A row of an entity's table: a value for every field. Null is not a value. -/
def Row (e : Entity) (V : Type u) : Type u := {name : String // e.hasField name = true} → V

variable {e : Entity} {V : Type u} {rows : Set (e.Row V)} {names : List String}

/-- Two rows agree on those of the given names that are fields. -/
def Row.AgreeOn (row row' : e.Row V) (names : List String) : Prop :=
  ∀ (name : String) (h : e.hasField name = true), name ∈ names → row ⟨name, h⟩ = row' ⟨name, h⟩

/-- No two rows of a table agree on all the given names. -/
def UniqueOver (rows : Set (e.Row V)) (names : List String) : Prop :=
  ∀ row ∈ rows, ∀ row' ∈ rows, row.AgreeOn row' names → row = row'

/-- A table keeps the primary key, if there is one, and every unique index. An index with prefix
    lengths asks for more than is asked for here: that already the prefixes are distinct. -/
structure Respects (e : Entity) (rows : Set (e.Row V)) : Prop where
  key : e.hasPrimaryKey = true → UniqueOver rows e.primaryKeyNames
  indices : ∀ index ∈ e.uniqueIndices, UniqueOver rows index.fieldNames

/-- What is unique over some names is unique over more names. -/
theorem UniqueOver.mono {others : List String} (h : UniqueOver rows names)
    (hsub : ∀ name ∈ names, name ∈ others) : UniqueOver rows others :=
  fun row hrow row' hrow' hagree =>
    h row hrow row' hrow' fun name hfield hname => hagree name hfield (hsub name hname)

theorem mem_of_all_contains {others : List String} (h : names.all others.contains = true) :
    ∀ name ∈ names, name ∈ others := fun name hname =>
  List.contains_iff_mem.mp (List.all_eq_true.mp h name hname)

/-- An entity with the names of a primary key has a primary key. -/
theorem hasPrimaryKey_of_names (h : e.primaryKeyNames.isEmpty = false) :
    e.hasPrimaryKey = true := by
  rw [primaryKeyNames, List.isEmpty_map] at h
  rw [hasPrimaryKey, h]
  rfl

/-- Names that pass the uniqueness test are unique in every table that keeps key and indices. -/
theorem Respects.uniqueOver (h : e.Respects rows) (htest : e.hasUniqueOver names = true) :
    UniqueOver rows names := by
  rw [hasUniqueOver, Bool.or_eq_true] at htest
  rcases htest with hkey | hindex
  · rw [keyCovers, Bool.and_eq_true, Bool.and_eq_true, Bool.not_eq_true'] at hkey
    obtain ⟨⟨hne, -⟩, hall⟩ := hkey
    exact (h.key (hasPrimaryKey_of_names hne)).mono (mem_of_all_contains hall)
  · obtain ⟨index, hmem, hcovers⟩ := List.any_eq_true.mp hindex
    rw [Index.covers, Bool.and_eq_true] at hcovers
    exact (h.indices index hmem).mono (mem_of_all_contains hcovers.2)

end Entity

namespace Relation

variable {r : Relation} {db : Database} {owner : Entity}

-- ── Reasons ───────────────────────────────────────────────────────────────────

/-- The three reasons to call a relation one-to-one. -/
theorem multiplicity_eq_oneToOne (howner : r.owner? db = some owner) :
    r.multiplicity db = .oneToOne ↔ r.isLocalKey db = true ∨
      owner.hasUniqueOver r.localFields = true ∨ r.hasInverse db = true := by
  rw [multiplicity, isUniqueOnOwner, howner]
  dsimp only
  rw [← Bool.or_eq_true, ← Bool.or_eq_true, ← Bool.or_assoc]
  split
  · rename_i h
    exact iff_of_true rfl h
  · rename_i h
    exact iff_of_false (fun hone => nomatch hone) h

/-- Local fields that are the primary key are unique, if there are any. -/
theorem hasUniqueOver_of_isLocalKey (howner : r.owner? db = some owner)
    (hne : r.references ≠ []) (h : r.isLocalKey db = true) :
    owner.hasUniqueOver r.localFields = true := by
  rw [isLocalKey, howner] at h
  dsimp only at h
  rw [Bool.and_eq_true, beq_iff_eq] at h
  obtain ⟨hlength, hall⟩ := h
  have hkey : owner.primaryKeyNames.isEmpty = false := by
    rw [List.isEmpty_eq_false_iff, ← List.length_pos_iff, hlength, localFields, List.length_map]
    exact List.length_pos_iff.mpr hne
  have hnames : owner.primaryKeyNames.all r.localFields.contains = true := hall
  rw [Entity.hasUniqueOver, Entity.keyCovers, hkey, hlength, hnames, beq_self_eq_true]
  rfl

/-- On an owner with nothing left to do for inverses, an inverse makes the local fields unique. -/
theorem hasUniqueOver_of_hasInverse (howner : r.owner? db = some owner) (hr : r ∈ owner.relations)
    (hne : r.references ≠ []) (hs : owner.InverseSettled db) (h : r.hasInverse db = true) :
    owner.hasUniqueOver r.localFields = true := by
  cases hkey : r.isLocalKey db with
  | true => exact hasUniqueOver_of_isLocalKey howner hne hkey
  | false =>
      have hwanted : r.localFields ∈ db.inverseNames owner := by
        refine List.mem_map.mpr ⟨r, List.mem_filter.mpr ⟨hr, ?_⟩, rfl⟩
        rw [hkey, h]
        rfl
      rcases hs r.localFields hwanted with hnil | hunique
      · exact absurd (List.map_eq_nil_iff.mp hnil) hne
      · exact hunique

end Relation

namespace Database

variable {db d : Database} {p : Platform} {r : Relation}

-- ── Finalized databases ───────────────────────────────────────────────────────

/-- After a finalization, a relation is one-to-one exactly if the owner keeps its local fields
    unique; and then no two rows of a table that keeps key and unique indices agree on them. -/
theorem oneToOne_unique (h : db.Reachable) (hok : db.finalize p = (d, .ok ()))
    (hr : r ∈ d.relations) :
    ∃ owner, r.owner? d = some owner ∧
      (r.multiplicity d = .oneToOne ↔ owner.hasUniqueOver r.localFields = true) ∧
      (r.multiplicity d = .oneToOne → ∀ (V : Type u) (rows : Set (owner.Row V)),
        owner.Respects rows → Entity.UniqueOver rows r.localFields) := by
  have hsound : d.Sound := (h.finalize hok).sound
  obtain ⟨owner, howner, hlisted⟩ := mem_relations.mp hr
  have hfound : r.owner? d = some owner := hsound.placed.owner?_eq howner hlisted
  have hne : r.references ≠ [] := by
    have hresolved := finalize_resolved h.sound.placed p
    rw [hok] at hresolved
    rcases hresolved with ⟨f, heq⟩ | hresolved
    · exact nomatch congrArg Prod.snd heq
    · exact (hresolved r hr).1
  have hsettled : owner.Settled p d := finalize_settles h.sound.placed hok owner howner
  have hiff : r.multiplicity d = .oneToOne ↔ owner.hasUniqueOver r.localFields = true := by
    rw [Relation.multiplicity_eq_oneToOne hfound]
    constructor
    · rintro (hkey | hunique | hinverse)
      · exact Relation.hasUniqueOver_of_isLocalKey hfound hne hkey
      · exact hunique
      · exact Relation.hasUniqueOver_of_hasInverse hfound hlisted hne hsettled.inverses hinverse
    · exact fun hunique => Or.inr (Or.inl hunique)
  exact ⟨owner, hfound, hiff, fun hone V rows hrows => hrows.uniqueOver (hiff.mp hone)⟩

/-- In the finalized community a relation that has an inverse and is no key is one-to-one, and a
    table of its owner has no two rows with the same local values. -/
theorem oneToOne_unique_community :
    ∃ d r owner, community.Reachable ∧
      community.finalize ⟨.postgresql, false⟩ = (d, .ok ()) ∧ r ∈ d.relations ∧
      r.isLocalKey d = false ∧ r.hasInverse d = true ∧ r.owner? d = some owner ∧
      ∀ rows : Set (owner.Row Nat), owner.Respects rows →
        Entity.UniqueOver rows r.localFields := by
  have hok : community.finalize ⟨.postgresql, false⟩ =
      ((community.finalize ⟨.postgresql, false⟩).1, .ok ()) :=
    Prod.ext rfl (by decide +kernel)
  obtain ⟨r, hr, hkey, hinverse, hone⟩ :
      ∃ r ∈ (community.finalize ⟨.postgresql, false⟩).1.relations,
        r.isLocalKey (community.finalize ⟨.postgresql, false⟩).1 = false ∧
        r.hasInverse (community.finalize ⟨.postgresql, false⟩).1 = true ∧
        r.multiplicity (community.finalize ⟨.postgresql, false⟩).1 = .oneToOne := by
    decide +kernel
  obtain ⟨owner, howner, -, hunique⟩ := oneToOne_unique community_reachable hok hr
  exact ⟨_, r, owner, community_reachable, hok, hr, hkey, hinverse, howner, hunique hone Nat⟩

end Database

end SchemaDdl
