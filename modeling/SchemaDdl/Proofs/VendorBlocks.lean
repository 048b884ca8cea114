import SchemaDdl.Document.Load
import SchemaDdl.Proofs.Mappings

/-!
# What vendor blocks hold

Blocks are added one after the other, and a block of a kind that is there already is merged into it.
What comes of that is said here without merging: for each kind one block, which is the map of all
parameters that were ever declared for the kind, one declaration behind the other.

* **`VendorDeclaration`**: a block as it is declared, with its kind in whatever spelling.
* **`VendorBlocks.declared`**: all parameters that are declared for a kind.
* **`VendorBlocks.toList_addAll`**: the blocks that a run of declarations leaves.
* **`VendorBlocks.Merges`**, **`VendorBlocks.merges_addAll`**: all that can be asked of them.
* **`Document.addAll_of_vendorsOf`**: the blocks of a document come from declarations.
-/

namespace SchemaDdl

/-- A vendor block as it is declared: its kind in whatever spelling, and its parameters in the order
    in which they are set. -/
structure VendorDeclaration where
  kind : String
  parameters : List (String × String)
  deriving DecidableEq, Repr

namespace VendorDeclaration

/-- The kind in lower case, which tells blocks apart. -/
def key (d : VendorDeclaration) : String := Text.lower d.kind

/-- The block of a declaration. -/
def block (d : VendorDeclaration) : VendorBlock :=
  d.parameters.foldl (fun block p => block.set p.1 p.2) (.ofKind d.kind)

/-- A block is the map of its parameters. -/
theorem block_eq (d : VendorDeclaration) : d.block = ⟨d.key, .ofList d.parameters⟩ := by
  have hset : ∀ (parameters : List (String × String)) (block : VendorBlock),
      parameters.foldl (fun block p => block.set p.1 p.2) block =
        ⟨block.kind, block.parameters.putAll parameters⟩ := by
    intro parameters
    induction parameters with
    | nil => exact fun _ => rfl
    | cons p parameters ih => exact fun block => ih (block.set p.1 p.2)
  exact hset d.parameters (.ofKind d.kind)

end VendorDeclaration

namespace VendorBlocks

variable {blocks : VendorBlocks} {ds : List VendorDeclaration}

/-- Add the blocks of declarations, one after the other. -/
def addAll (blocks : VendorBlocks) (ds : List VendorDeclaration) : VendorBlocks :=
  ds.foldl (fun blocks d => blocks.add d.block) blocks

/-- The parameters that are declared for a kind, one declaration behind the other. -/
def declared (ds : List VendorDeclaration) (kind : String) : List (String × String) :=
  (ds.filter (·.key == kind)).flatMap (·.parameters)

/-- What is stored stands for declarations that were added in order. -/
structure Merges (blocks : VendorBlocks) (ds : List VendorDeclaration) : Prop where
  /-- There is one block for each kind, in order of first declaration. -/
  kinds : blocks.toList.map (·.kind) = (ds.map (·.key)).eraseDups
  /-- A block holds what was declared for its kind, and nothing else. -/
  parameters : ∀ block ∈ blocks.toList, block.parameters.Holds (declared ds block.kind)
  found : ∀ block ∈ blocks.toList, ∀ kind, Text.lower kind = block.kind →
    blocks.forKind kind = block
  missing : ∀ kind, (∀ d ∈ ds, d.key ≠ Text.lower kind) →
    blocks.forKind kind = ⟨Text.lower kind, .empty⟩
  /-- One more declaration leaves the blocks of other kinds as they are, and in their order. -/
  others : ∀ d : VendorDeclaration,
    (blocks.add d.block).toList.filter (·.kind != d.key) =
      blocks.toList.filter (·.kind != d.key) ∧
    ∀ kind, Text.lower kind ≠ d.key →
      (blocks.add d.block).forKind kind = blocks.forKind kind

-- ── One declaration ───────────────────────────────────────────────────────────

/-- One more declaration is added to what all before it have left. -/
theorem addAll_concat (blocks : VendorBlocks) (ds : List VendorDeclaration)
    (d : VendorDeclaration) : blocks.addAll (ds ++ [d]) = (blocks.addAll ds).add d.block := by
  rw [addAll, List.foldl_append]
  rfl

/-- A block that is added is stored under its kind, alone or merged into the one that is there. -/
theorem byKind_add (blocks : VendorBlocks) (block : VendorBlock) :
    (blocks.add block).byKind = blocks.byKind.put block.kind
      (((blocks.byKind.get? block.kind).map fun old =>
        { old with parameters := old.parameters.putAll block.parameters.entries }).getD block) := by
  rw [add]
  cases blocks.byKind.get? block.kind with
  | none => rfl
  | some old => rfl

/-- One more declaration adds its parameters to those of its kind, and to no other. -/
theorem declared_concat (ds : List VendorDeclaration) (d : VendorDeclaration) (kind : String) :
    declared (ds ++ [d]) kind =
      declared ds kind ++ if d.key = kind then d.parameters else [] := by
  rw [declared, List.filter_append, List.flatMap_append]
  by_cases h : d.key = kind
  · simp [declared, h]
  · simp [declared, h]

theorem declared_concat_of_ne {d : VendorDeclaration} {kind : String} (h : kind ≠ d.key) :
    declared (ds ++ [d]) kind = declared ds kind := by
  rw [declared_concat, if_neg (Ne.symm h), List.append_nil]

/-- Nothing is declared for a kind that no declaration has. -/
theorem declared_eq_nil {kind : String} (h : kind ∉ ds.map (·.key)) : declared ds kind = [] := by
  have hnone : ds.filter (·.key == kind) = [] :=
    List.filter_eq_nil_iff.mpr fun d hd hkey => h (List.mem_map.mpr ⟨d, hd, eq_of_beq hkey⟩)
  rw [declared, hnone, List.flatMap_nil]

-- ── A run of declarations ─────────────────────────────────────────────────────

/-- Kinds stand in order of first declaration. -/
theorem keys_addAll (ds : List VendorDeclaration) :
    (empty.addAll ds).byKind.keys = (ds.map (·.key)).eraseDups := by
  induction ds using List.reverseRecOn with
  | nil => rfl
  | append_singleton ds d ih =>
      rw [addAll_concat, byKind_add, OrderedMap.keys_put, ih, d.block_eq, List.map_append,
        List.map_singleton, OrderedMap.eraseDups_concat]

/-- Under a kind stands the map of everything that was declared for it. -/
theorem get?_addAll (ds : List VendorDeclaration) (kind : String) :
    (empty.addAll ds).byKind.get? kind =
      if kind ∈ ds.map (·.key) then some ⟨kind, .ofList (declared ds kind)⟩ else none := by
  induction ds using List.reverseRecOn with
  | nil => rfl
  | append_singleton ds d ih =>
      rw [addAll_concat, byKind_add, OrderedMap.get?_put, d.block_eq, List.map_append,
        List.map_singleton]
      by_cases hkind : kind = d.key
      · subst hkind
        rw [declared_concat, if_pos rfl, if_pos rfl,
          if_pos (List.mem_append_right _ List.mem_cons_self), ih]
        by_cases hold : d.key ∈ ds.map (·.key)
        · rw [if_pos hold, Option.map_some, Option.getD_some, OrderedMap.putAll_entries_ofList]
        · rw [if_neg hold, declared_eq_nil hold, List.nil_append]
          rfl
      · have hmem : kind ∈ ds.map (·.key) ++ [d.key] ↔ kind ∈ ds.map (·.key) := by
          simp [hkind]
        rw [if_neg hkind, ih, declared_concat_of_ne hkind]
        simp only [hmem]

/-- The blocks that a run of declarations leaves: one for each kind, made of everything that was
    declared for the kind. -/
theorem toList_addAll (ds : List VendorDeclaration) :
    (empty.addAll ds).toList =
      (ds.map (·.key)).eraseDups.map fun kind => ⟨kind, .ofList (declared ds kind)⟩ := by
  have hnodup : (empty.addAll ds).byKind.keys.Nodup :=
    keys_addAll ds ▸ OrderedMap.nodup_eraseDups _
  have hblock : ∀ kind ∈ (ds.map (·.key)).eraseDups,
      ((empty.addAll ds).byKind.get? kind).map (kind, ·) =
        some (kind, VendorBlock.mk kind (.ofList (declared ds kind))) := by
    intro kind hkind
    rw [get?_addAll, if_pos (List.mem_eraseDups.mp hkind), Option.map_some]
  rw [toList, OrderedMap.entries_eq_filterMap hnodup, keys_addAll, List.filterMap_congr hblock,
    ← Function.comp_def some, List.filterMap_eq_map, List.map_map]
  rfl

/-- A block is stored if its kind was declared, with all that was declared for it. -/
theorem mem_addAll {ds : List VendorDeclaration} {block : VendorBlock} :
    block ∈ (empty.addAll ds).toList ↔
      block.kind ∈ ds.map (·.key) ∧ block.parameters = .ofList (declared ds block.kind) := by
  rw [toList_addAll, List.mem_map]
  constructor
  · rintro ⟨kind, hkind, rfl⟩
    exact ⟨List.mem_eraseDups.mp hkind, rfl⟩
  · rintro ⟨hkind, hparameters⟩
    exact ⟨block.kind, List.mem_eraseDups.mpr hkind, by rw [← hparameters]⟩

/-- Asking for a kind gives everything that was declared for it, and nothing if nothing was. -/
theorem forKind_addAll (ds : List VendorDeclaration) (kind : String) :
    (empty.addAll ds).forKind kind = ⟨Text.lower kind, .ofList (declared ds (Text.lower kind))⟩ := by
  rw [forKind, get?_addAll]
  by_cases h : Text.lower kind ∈ ds.map (·.key)
  · rw [if_pos h, Option.getD_some]
  · rw [if_neg h, declared_eq_nil h]
    rfl

/-- One more declaration leaves the blocks of other kinds as they are, and in their order. -/
theorem filter_toList_addAll_concat (ds : List VendorDeclaration) (d : VendorDeclaration) :
    (empty.addAll (ds ++ [d])).toList.filter (·.kind != d.key) =
      (empty.addAll ds).toList.filter (·.kind != d.key) := by
  -- a kind that is new goes to the end, where the filter drops it
  have hkinds : (ds.map (·.key) ++ [d.key]).eraseDups.filter (· != d.key) =
      (ds.map (·.key)).eraseDups.filter (· != d.key) := by
    rw [OrderedMap.eraseDups_concat]
    split
    · rfl
    · simp [List.filter_append]
  rw [toList_addAll, toList_addAll, List.map_append, List.map_singleton, List.filter_map,
    List.filter_map]
  refine (congrArg _ hkinds).trans (List.map_congr_left fun kind hkind => ?_)
  rw [declared_concat_of_ne (bne_iff_ne.mp (List.mem_filter.mp hkind).2)]

/-- However vendor blocks are declared, in whatever spellings of their kinds and with whatever
    parameters repeated, what is stored stands for the declarations. -/
theorem merges_addAll (ds : List VendorDeclaration) : (empty.addAll ds).Merges ds where
  kinds := by
    rw [toList_addAll, List.map_map]
    exact List.map_id _
  parameters := by
    intro block hblock
    rw [(mem_addAll.mp hblock).2]
    exact OrderedMap.holds_ofList _
  found := by
    intro block hblock kind hkind
    rw [forKind_addAll, hkind, ← (mem_addAll.mp hblock).2]
  missing := by
    intro kind hnone
    have hkind : Text.lower kind ∉ ds.map (·.key) := fun h =>
      (List.mem_map.mp h).elim fun d hd => hnone d hd.1 hd.2
    rw [forKind_addAll, declared_eq_nil hkind]
    rfl
  others := by
    intro d
    rw [← addAll_concat]
    refine ⟨filter_toList_addAll_concat ds d, fun kind hkind => ?_⟩
    rw [forKind_addAll, forKind_addAll, declared_concat_of_ne hkind]

/-- A kind in three spellings: the first value keeps its place, and the last one counts. -/
example :
    let blocks := empty.addAll [⟨"MySQL", [("Engine", "MyISAM"), ("Charset", "latin1")]⟩,
      ⟨"pgsql", []⟩, ⟨"mysql", [("Charset", "utf8mb4"), ("engine", "Aria")]⟩]
    blocks.toList.map (·.kind) = ["mysql", "pgsql"] ∧
      (blocks.forKind "MYSQL").parameters.entries =
        [("Engine", "MyISAM"), ("Charset", "utf8mb4"), ("engine", "Aria")] := by decide +kernel

end VendorBlocks

-- ── Documents ─────────────────────────────────────────────────────────────────

namespace Document

variable {n : Node}

/-- Reading a vendor block adds one declaration, with the parameters of the object in order. -/
theorem addAll_of_vendorOf {blocks blocks' : VendorBlocks} (h : vendorOf blocks n = .ok blocks') :
    ∃ d : VendorDeclaration, blocks' = blocks.add d.block := by
  simp only [vendorOf, bind_eq_ok] at h
  obtain ⟨kind, -, parameters, -, block, hblock, h⟩ := h
  injection h with h
  have hset : ∀ b child b', (∃ ps, b = (VendorDeclaration.mk kind ps).block) →
      parameterOf b child = .ok b' → ∃ ps, b' = (VendorDeclaration.mk kind ps).block := by
    rintro _ child b' ⟨ps, rfl⟩ hstep
    simp only [parameterOf, bind_eq_ok] at hstep
    obtain ⟨name, -, value, -, hstep⟩ := hstep
    injection hstep with hstep
    refine ⟨ps ++ [(name, value.getD "")], ?_⟩
    rw [← hstep, VendorDeclaration.block, VendorDeclaration.block, List.foldl_append]
    rfl
  obtain ⟨ps, rfl⟩ := foldlM_keeps hset ⟨[], rfl⟩ hblock
  exact ⟨⟨kind, ps⟩, h.symm⟩

/-- The vendor blocks of a document come from declarations that were added one by one. -/
theorem addAll_of_vendorsOf {blocks : VendorBlocks} (h : vendorsOf n = .ok blocks) :
    ∃ ds, blocks = VendorBlocks.empty.addAll ds := by
  simp only [vendorsOf, bind_eq_ok] at h
  obtain ⟨nodes, -, h⟩ := h
  have hadd : ∀ bs child bs', (∃ ds, bs = VendorBlocks.empty.addAll ds) →
      vendorOf bs child = .ok bs' → ∃ ds, bs' = VendorBlocks.empty.addAll ds := by
    rintro _ child bs' ⟨ds, rfl⟩ hstep
    obtain ⟨d, rfl⟩ := addAll_of_vendorOf hstep
    exact ⟨ds ++ [d], (VendorBlocks.addAll_concat _ ds d).symm⟩
  exact foldlM_keeps hadd ⟨[], rfl⟩ h

end Document

end SchemaDdl
