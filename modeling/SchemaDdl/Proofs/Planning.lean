import SchemaDdl.Finalize.Normalize

/-!
# Planning indices

Which indices are added is decided by a test on lists of names, and by comparing these lists with
those planned before. This file shows that the plan is complete: every list of names that is wanted
passes the test already, or is matched by a planned one, and an index over a planned list passes the
test for every list that it matches. The tests compare lengths and membership only, and so does the
matching; names that occur twice therefore do no harm.

* **`planIndices_complete`**, **`planIndices_eq_nil`**: what a plan covers, and when it is empty.
* **`Entity.hasUniqueOver_mono`**, **`Entity.isIndexedByPrefix_mono`**: names that pass a test still
  pass it when there are more indices.
-/

namespace SchemaDdl

-- ── Plans ─────────────────────────────────────────────────────────────────────

section Plans

variable {satisfied : List String → Bool}

/-- A step of the plan keeps what is planned. -/
private theorem subset_planStep (planned : List (List String)) (names : List String) :
    ∀ q ∈ planned, q ∈ planStep satisfied planned names := by
  intro q hq
  rw [planStep]
  split
  · exact hq
  · exact List.mem_append_left _ hq

/-- After a step for some names they need nothing more: there are none, they pass the test, or a
    planned list matches them. -/
private theorem planStep_covers (satisfied : List String → Bool) (planned : List (List String))
    (names : List String) :
    names = [] ∨ satisfied names = true ∨
      ∃ q ∈ planStep satisfied planned names, sameNames q names = true := by
  rw [planStep]
  split
  · rename_i hskip
    rw [Bool.or_eq_true, Bool.or_eq_true] at hskip
    rcases hskip with (hempty | hsat) | hplanned
    · exact Or.inl (List.isEmpty_iff.mp hempty)
    · exact Or.inr (Or.inl hsat)
    · exact Or.inr (Or.inr (List.any_eq_true.mp hplanned))
  · refine Or.inr (Or.inr ⟨names, List.mem_append_right _ (List.mem_singleton.mpr rfl), ?_⟩)
    simp [sameNames]

/-- A plan covers all names that were wanted. -/
theorem planIndices_complete (satisfied : List String → Bool) {wanted : List (List String)}
    {names : List String} (h : names ∈ wanted) :
    names = [] ∨ satisfied names = true ∨
      ∃ q ∈ planIndices satisfied wanted, sameNames q names = true := by
  have hkeep : ∀ (rest planned : List (List String)), ∀ q ∈ planned,
      q ∈ rest.foldl (planStep satisfied) planned := by
    intro rest
    induction rest with
    | nil => exact fun _ _ hq => hq
    | cons w rest ih => exact fun planned q hq => ih _ q (subset_planStep planned w q hq)
  have hrun : ∀ (wanted planned : List (List String)), names ∈ wanted →
      names = [] ∨ satisfied names = true ∨
        ∃ q ∈ wanted.foldl (planStep satisfied) planned, sameNames q names = true := by
    intro wanted
    induction wanted with
    | nil => exact fun _ h => nomatch h
    | cons w rest ih =>
        intro planned h
        rcases List.mem_cons.mp h with rfl | hrest
        · rcases planStep_covers satisfied planned names with hnil | hsat | hq
          · exact Or.inl hnil
          · exact Or.inr (Or.inl hsat)
          · obtain ⟨q, hq, hsame⟩ := hq
            exact Or.inr (Or.inr ⟨q, hkeep rest _ q hq, hsame⟩)
        · exact ih (planStep satisfied planned w) hrest
  exact hrun wanted [] h

/-- Nothing is planned where all wanted names need nothing. -/
theorem planIndices_eq_nil {wanted : List (List String)}
    (h : ∀ names ∈ wanted, names = [] ∨ satisfied names = true) :
    planIndices satisfied wanted = [] := by
  have hstep : ∀ names ∈ wanted, planStep satisfied [] names = [] := by
    intro names hnames
    rw [planStep]
    rw [if_pos]
    rcases h names hnames with hnil | hsat
    · simp [hnil]
    · simp [hsat]
  rw [planIndices]
  clear h
  induction wanted with
  | nil => rfl
  | cons w rest ih =>
      rw [List.foldl_cons, hstep w List.mem_cons_self]
      exact ih fun names hnames => hstep names (List.mem_cons_of_mem w hnames)

end Plans

-- ── Planned indices pass the tests ────────────────────────────────────────────

namespace Index

variable {names others : List String}

/-- The test whether an index covers some names is the one that compares planned lists. -/
theorem covers_ofNames (unique : Bool) :
    (ofNames unique names).covers others = sameNames names others := by
  simp [covers, ofNames, fieldNames, sameNames, Function.comp_def]

/-- An index over a list starts with every list of names that it matches. -/
theorem hasPrefix_ofNames (unique : Bool) (hne : others ≠ [])
    (h : sameNames names others = true) : (ofNames unique names).hasPrefix others = true := by
  rw [sameNames, Bool.and_eq_true, beq_iff_eq] at h
  obtain ⟨hlength, hall⟩ := h
  have hnames : (ofNames unique names).fieldNames = names := by
    simp [ofNames, fieldNames, Function.comp_def]
  have hfields : (ofNames unique names).fields.length = names.length := List.length_map _
  rw [hasPrefix]
  rw [hnames, hfields, ← hlength, List.take_length, hall]
  simp [hne]

end Index

namespace Entity

variable {e e' : Entity} {names : List String}

/-- The primary key is a matter of the fields. -/
theorem primaryKeyNames_congr (h : e'.fields = e.fields) :
    e'.primaryKeyNames = e.primaryKeyNames := by
  simp only [primaryKeyNames, primaryKey, h]

/-- More indices do not make names less unique. -/
theorem hasUniqueOver_mono (hfields : e'.fields = e.fields) (hindices : e.indices ⊆ e'.indices)
    (h : e.hasUniqueOver names = true) : e'.hasUniqueOver names = true := by
  rw [hasUniqueOver] at h ⊢
  rw [Bool.or_eq_true] at h ⊢
  rcases h with hkey | hindex
  · refine Or.inl ?_
    rw [keyCovers] at hkey ⊢
    rw [primaryKeyNames_congr hfields]
    exact hkey
  · obtain ⟨index, hmem, hcovers⟩ := List.any_eq_true.mp hindex
    obtain ⟨hmem, hunique⟩ := List.mem_filter.mp hmem
    exact Or.inr (List.any_eq_true.mpr
      ⟨index, List.mem_filter.mpr ⟨hindices hmem, hunique⟩, hcovers⟩)

/-- A unique index over a list makes every list of names unique that it matches. -/
theorem hasUniqueOver_of_sameNames {others : List String}
    (hmem : Index.ofNames true others ∈ e.indices) (h : sameNames others names = true) :
    e.hasUniqueOver names = true := by
  rw [hasUniqueOver, uniqueIndices]
  rw [Bool.or_eq_true]
  refine Or.inr (List.any_eq_true.mpr ⟨Index.ofNames true others, ?_, ?_⟩)
  · exact List.mem_filter.mpr ⟨hmem, rfl⟩
  · rw [Index.covers_ofNames]
    exact h

/-- More indices do not take a leading list of names away. -/
theorem isIndexedByPrefix_mono (hfields : e'.fields = e.fields)
    (hindices : e.indices ⊆ e'.indices) (h : e.isIndexedByPrefix names = true) :
    e'.isIndexedByPrefix names = true := by
  rw [isIndexedByPrefix] at h ⊢
  rw [Bool.or_eq_true] at h ⊢
  rcases h with hkey | hindex
  · refine Or.inl ?_
    rw [keyHasPrefix] at hkey ⊢
    rw [primaryKeyNames_congr hfields]
    exact hkey
  · obtain ⟨index, hmem, hprefix⟩ := List.any_eq_true.mp hindex
    exact Or.inr (List.any_eq_true.mpr ⟨index, hindices hmem, hprefix⟩)

/-- An index over a list leads with every list of names that it matches. -/
theorem isIndexedByPrefix_of_sameNames {others : List String} {unique : Bool} (hne : names ≠ [])
    (hmem : Index.ofNames unique others ∈ e.indices) (h : sameNames others names = true) :
    e.isIndexedByPrefix names = true := by
  rw [isIndexedByPrefix]
  rw [Bool.or_eq_true]
  exact Or.inr (List.any_eq_true.mpr ⟨_, hmem, Index.hasPrefix_ofNames unique hne h⟩)

end Entity

end SchemaDdl
