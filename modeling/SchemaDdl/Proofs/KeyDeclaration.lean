import SchemaDdl.Ddl.Render
import SchemaDdl.Proofs.Acceptance

/-!
# Where the primary key is declared

SQLite declares a primary key in one of two places: behind the one column that counts up by itself,
or in a clause of the table. Columns and table decide about this separately. The column looks at
itself, the table looks for a key field that counts up. What makes them agree is that SQLite refuses
entities in which anything but the whole key counts up.

* **`Platform.carries`**: the text of a column is what it would be without a clause, and then the
  clause. A column carries the platform's clause for counting up if it counts up
  (`Platform.carries_iff`).
* **`Entity.countP_autoIncrement`**: in an entity that is not refused at most one field counts up.

The main result counts the declarations of a table.
-/

namespace SchemaDdl

namespace Platform

variable {p : Platform} {e : Entity} {f : Field}

-- ── Columns ───────────────────────────────────────────────────────────────────

/-- The definition of a column up to what is written after auto-incremented columns. -/
def columnStart (p : Platform) (f : Field) : String :=
  Text.join " " (p.identifier f.name :: p.columnType f ::
    [p.defaultClause f, p.nullClause f].filter (!·.isEmpty))

/-- Whether the definition of a column is its start and then this one clause. The clause is what
    stands behind the name, the type, the default and the null clause: the same words in a type or
    a default that is written as given are part of the start and do not count. -/
def carries (p : Platform) (clause : String) (f : Field) : Bool :=
  p.column f == Text.concat [p.columnStart f, " ", clause]

/-- A column is its start, and behind a blank what is written after auto-incremented columns. -/
theorem column_eq (p : Platform) (f : Field) :
    p.column f = p.columnStart f ++ behindBlank (p.autoIncrementClause f) := by
  have hclauses : p.column f = Text.join " " ((p.identifier f.name :: p.columnType f ::
      [p.defaultClause f, p.nullClause f].filter (!·.isEmpty)) ++
        [p.autoIncrementClause f].filter (!·.isEmpty)) := by
    rw [List.cons_append, List.cons_append, ← List.filter_append]
    rfl
  rw [hclauses, behindBlank, columnStart, List.filter_singleton]
  cases p.autoIncrementClause f |>.isEmpty with
  | true => simp
  | false =>
      rw [Text.join_append_of_ne_nil " " (List.cons_ne_nil _ _)]
      · simp [Text.join, Text.concat, String.append_assoc]
      · exact List.cons_ne_nil _ []

/-- A column carries the platform's clause for auto-incremented columns if it is one. -/
theorem carries_iff (hne : p.profile.autoIncrementText ≠ "") :
    p.carries p.profile.autoIncrementText f = true ↔ f.autoIncrement = true := by
  have hwith : Text.concat [p.columnStart f, " ", p.profile.autoIncrementText] =
      p.columnStart f ++ (" " ++ p.profile.autoIncrementText) := by
    simp [Text.concat]
  rw [carries, beq_iff_eq, column_eq, autoIncrementClause, hwith, String.append_right_inj]
  cases f.autoIncrement with
  | true => simp [behindBlank, hne, Text.concat]
  | false => simp [behindBlank, String.ext_iff]

-- ── The table ─────────────────────────────────────────────────────────────────

/-- The table has a clause for its key, unless it has no key or a column declares it. -/
theorem primaryKeyClause_eq_empty (p : Platform) (e : Entity) :
    p.primaryKeyClause e = "" ↔ e.hasPrimaryKey = false ∨ p.keyOnColumn e = true := by
  have hkey : e.primaryKeyNames.isEmpty = !e.hasPrimaryKey := by
    simp [Entity.primaryKeyNames, Entity.hasPrimaryKey]
  rw [primaryKeyClause, hkey]
  cases e.hasPrimaryKey <;> cases p.keyOnColumn e <;> simp [Text.concat, String.ext_iff]

end Platform

namespace Entity

variable {e : Entity}

/-- In an entity that SQLite does not refuse, no field counts up, or one does and is the key. -/
theorem countP_autoIncrement
    (h : ∀ f ∈ e.fields, f.autoIncrement = true → e.primaryKey = [f]) :
    e.fields.countP (·.autoIncrement) = if e.autoIncrementKey?.isSome then 1 else 0 := by
  have hkey : ∀ f ∈ e.fields, f.autoIncrement = true → f.primaryKey = true :=
    fun f hf hauto => (of_primaryKey_eq_singleton (h f hf hauto)).2
  have hcount : e.fields.countP (·.autoIncrement) = e.primaryKey.countP (·.autoIncrement) := by
    rw [primaryKey, List.countP_filter]
    refine List.countP_congr fun f hf => ?_
    rw [Bool.and_eq_true]
    exact ⟨fun hauto => ⟨hauto, hkey f hf hauto⟩, And.left⟩
  rw [hcount]
  by_cases hsome : e.autoIncrementKey?.isSome = true
  · obtain ⟨f, hf, -, hauto⟩ := autoIncrementKey?_isSome.mp hsome
    rw [if_pos hsome, h f hf hauto, List.countP_singleton, if_pos hauto]
  · rw [if_neg hsome, List.countP_eq_zero]
    intro f hf hauto
    obtain ⟨hfield, hprimary⟩ := List.mem_filter.mp hf
    exact hsome (autoIncrementKey?_isSome.mpr ⟨f, hfield, hprimary, hauto⟩)

/-- An entity with a key field that counts up has a key. -/
theorem hasPrimaryKey_of_autoIncrementKey? (h : e.autoIncrementKey?.isSome = true) :
    e.hasPrimaryKey = true := by
  obtain ⟨f, hf, hkey, -⟩ := autoIncrementKey?_isSome.mp h
  rw [hasPrimaryKey, Bool.not_eq_true', List.isEmpty_eq_false_iff]
  exact List.ne_nil_of_mem (List.mem_filter.mpr ⟨hf, hkey⟩)

end Entity

namespace Database

variable {db d : Database} {e : Entity}

/-- In a reachable database that SQLite finalizes, the primary key of every entity is declared once:
    the columns that carry the clause for counting up and the clause of the table add up to one, or
    to none if there is no key. A column that declares it is the whole key. -/
theorem keyDeclarations_sqlite {quoting : Bool} (h : db.Reachable)
    (hok : db.finalize ⟨.sqlite, quoting⟩ = (d, .ok ())) (he : e ∈ d.entities) (p : Platform)
    (hp : p.dialect = .sqlite) :
    (e.fields.countP (p.carries "PRIMARY KEY AUTOINCREMENT") +
        (if p.primaryKeyClause e = "" then 0 else 1) = if e.hasPrimaryKey then 1 else 0) ∧
    ∀ f ∈ e.fields, p.carries "PRIMARY KEY AUTOINCREMENT" f = true → e.primaryKey = [f] := by
  have hsingle : ∀ f ∈ e.fields, f.autoIncrement = true → e.primaryKey = [f] :=
    Entity.sqliteRefusal?_eq_none.mp ((finalize_settles h.sound.placed hok e he).accepted rfl)
  have htext : p.profile.autoIncrementText = "PRIMARY KEY AUTOINCREMENT" := by
    rw [Platform.profile, hp]
    rfl
  have hcarries (f : Field) :
      p.carries "PRIMARY KEY AUTOINCREMENT" f = true ↔ f.autoIncrement = true := by
    rw [← htext]
    exact Platform.carries_iff (by rw [htext]; decide)
  have honColumn : p.keyOnColumn e = e.autoIncrementKey?.isSome := by
    rw [Platform.keyOnColumn, hp]
  refine ⟨?_, fun f hf hf' => hsingle f hf ((hcarries f).mp hf')⟩
  rw [List.countP_congr fun f _ => hcarries f, Entity.countP_autoIncrement hsingle]
  -- both sides of the table now look at the same key field
  simp only [Platform.primaryKeyClause_eq_empty, honColumn]
  cases hfound : e.autoIncrementKey?.isSome with
  | true =>
      have hkey : e.hasPrimaryKey = true := Entity.hasPrimaryKey_of_autoIncrementKey? hfound
      simp [hkey]
  | false => cases e.hasPrimaryKey <;> simp

/-- The community with one more entity, which has no key. -/
def noticed : Database :=
  (community.run (.addEntity ⟨"Notice", [.addField (.plain "text" .varchar)]⟩)).1

/-- Users and profiles have columns that declare the key, memberships have a clause for it, and
    notices have neither. The column of users is their whole key. -/
theorem keyDeclarations_sqlite_noticed :
    ∃ d user f, noticed.Reachable ∧ noticed.finalize ⟨.sqlite, false⟩ = (d, .ok ()) ∧
      (d.entities.map fun e =>
        (e.fields.countP (Platform.carries ⟨.sqlite, true⟩ "PRIMARY KEY AUTOINCREMENT"),
          Platform.primaryKeyClause ⟨.sqlite, true⟩ e)) =
        [(1, ""), (1, ""), (0, "PRIMARY KEY (\"user_id\", \"profile_id\")"), (0, "")] ∧
      user ∈ d.entities ∧ f ∈ user.fields ∧
      Platform.carries ⟨.sqlite, true⟩ "PRIMARY KEY AUTOINCREMENT" f = true ∧
      user.primaryKey = [f] ∧ Platform.primaryKeyClause ⟨.sqlite, true⟩ user = "" ∧
      user.fields.countP (Platform.carries ⟨.sqlite, true⟩ "PRIMARY KEY AUTOINCREMENT") = 1 := by
  have hreach : noticed.Reachable := community_reachable.run _
  have hok : noticed.finalize ⟨.sqlite, false⟩ =
      ((noticed.finalize ⟨.sqlite, false⟩).1, .ok ()) := Prod.ext rfl (by decide +kernel)
  obtain ⟨user, huser, f, hf, hcarries, hclause⟩ :
      ∃ user ∈ (noticed.finalize ⟨.sqlite, false⟩).1.entities, ∃ f ∈ user.fields,
        Platform.carries ⟨.sqlite, true⟩ "PRIMARY KEY AUTOINCREMENT" f = true ∧
        Platform.primaryKeyClause ⟨.sqlite, true⟩ user = "" := by decide +kernel
  obtain ⟨hcount, hwhole⟩ := keyDeclarations_sqlite hreach hok huser ⟨.sqlite, true⟩ rfl
  have hkey : user.primaryKey = [f] := hwhole f hf hcarries
  rw [hclause, Entity.hasPrimaryKey, hkey] at hcount
  exact ⟨_, user, f, hreach, hok, by decide +kernel, huser, hf, hcarries, hkey, hclause, hcount⟩

end Database

end SchemaDdl
