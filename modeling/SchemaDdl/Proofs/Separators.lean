import SchemaDdl.Proofs.Script
import Mathlib.Data.List.Induction

/-!
# Separators in written lists

The definitions of a table and the columns of indices and keys are written as lists. Whoever writes
a list item by item does not know which item is the last one, but knows which one is the first. So a
pen remembers what is due in front of the next item: an opening at first, and a separator from then
on. The definitions of a table come from two places, and the second loop goes on with the pen of the
first, whether that has written anything or not.

* **`Text.Separated`**: what a list is written as, said of the items and separators that the text
  consists of.
* **`Text.Pen`**, **`Text.Pen.Wrote`**: the pen, and what is true of it between two items.
* **`LaidOut`**: what stands between the parentheses of a table.
* **`Statement.separators_exact`**: all lists of a statement are written so.
-/

namespace SchemaDdl

namespace Text

variable {sep opening text : String} {items : List String}

/-- What stands behind a text of several parts is one more part. -/
theorem concat_pair (parts : List String) (s : String) :
    concat [concat parts, s] = concat (parts ++ [s]) := by
  induction parts with
  | nil => rfl
  | cons part parts ih =>
      show part ++ concat parts ++ concat [s] = part ++ concat (parts ++ [s])
      rw [← ih, String.append_assoc]
      rfl

-- ── Items and separators ──────────────────────────────────────────────────────

/-- A part of a written list. -/
inductive ListPart where
  | item (s : String)
  | separator

namespace ListPart

/-- What is written of a part. -/
def written (sep : String) : ListPart → String
  | item s => s
  | separator => sep

/-- The item that a part is, if it is one. -/
def item? : ListPart → Option String
  | item s => some s
  | separator => none

end ListPart

/-- Separators stand between neighbouring items and nowhere else. -/
structure Alternating (parts : List ListPart) : Prop where
  noneLeads : parts.head? ≠ some .separator
  noneTrails : parts.getLast? ≠ some .separator
  /-- One of two neighbours is a separator: none is missing and none is doubled. -/
  inside : parts.IsChain fun part next => part = .separator ↔ next ≠ .separator

/-- A text consists of items in order, with separators between neighbours and nowhere else. -/
def Separated (sep : String) (items : List String) (text : String) : Prop :=
  ∃ parts, Alternating parts ∧ parts.filterMap ListPart.item? = items ∧
    text = concat (parts.map (ListPart.written sep))

theorem alternating_nil : Alternating [] := ⟨nofun, nofun, .nil⟩

theorem alternating_item (s : String) : Alternating [.item s] := ⟨nofun, nofun, .singleton _⟩

theorem not_alternating_separator (parts : List ListPart) : ¬ Alternating (.separator :: parts) :=
  fun h => h.noneLeads rfl

/-- Two items without a separator between them do not alternate. -/
theorem not_alternating_items (s t : String) (parts : List ListPart) :
    ¬ Alternating (.item s :: .item t :: parts) := by
  intro h
  have hpair := (List.isChain_cons_cons.mp h.inside).1
  exact nomatch hpair.mpr nofun

/-- Behind an item and a separator the same begins again, but not with nothing. -/
theorem alternating_item_separator {s : String} {parts : List ListPart} :
    Alternating (.item s :: .separator :: parts) ↔ parts ≠ [] ∧ Alternating parts := by
  constructor
  · intro h
    have hne : parts ≠ [] := by
      rintro rfl
      exact h.noneTrails rfl
    obtain ⟨part, parts, rfl⟩ := List.exists_cons_of_ne_nil hne
    obtain ⟨-, hrest⟩ := List.isChain_cons_cons.mp h.inside
    obtain ⟨hpart, hrest⟩ := List.isChain_cons_cons.mp hrest
    refine ⟨hne, fun hlead => hpart.mp rfl (Option.some.inj hlead), ?_, hrest⟩
    intro htrail
    apply h.noneTrails
    rw [List.getLast?_cons_cons, List.getLast?_cons_cons]
    exact htrail
  · rintro ⟨hne, h⟩
    obtain ⟨part, parts, rfl⟩ := List.exists_cons_of_ne_nil hne
    have hpart : part ≠ .separator := fun hpart => h.noneLeads (congrArg some hpart)
    refine ⟨nofun, ?_, ?_⟩
    · rw [List.getLast?_cons_cons, List.getLast?_cons_cons]
      exact h.noneTrails
    · refine .cons_cons ⟨nofun, fun hne => absurd rfl hne⟩ ?_
      exact .cons_cons ⟨fun _ => hpart, fun _ => rfl⟩ h.inside

/-- What alternating parts are written as is determined by the items. -/
theorem concat_of_alternating {parts : List ListPart} (h : Alternating parts) :
    concat (parts.map (ListPart.written sep)) = join sep (parts.filterMap ListPart.item?) := by
  induction parts using List.twoStepInduction with
  | nil => rfl
  | singleton part =>
      cases part with
      | item s => exact String.append_empty
      | separator => exact absurd h (not_alternating_separator [])
  | cons_cons part next parts ih _ =>
      cases part with
      | separator => exact absurd h (not_alternating_separator _)
      | item s =>
          cases next with
          | item t => exact absurd h (not_alternating_items s t parts)
          | separator =>
              obtain ⟨hne, hparts⟩ := alternating_item_separator.mp h
              obtain ⟨part, rest, rfl⟩ := List.exists_cons_of_ne_nil hne
              cases part with
              | separator => exact absurd hparts (not_alternating_separator rest)
              | item t =>
                  show s ++ (sep ++ concat _) = s ++ sep ++ join sep _
                  rw [ih hparts, String.append_assoc]
                  rfl

/-- The text is the join of the items, and there is no other. -/
theorem separated_iff : Separated sep items text ↔ text = join sep items := by
  constructor
  · rintro ⟨parts, hparts, rfl, rfl⟩
    exact concat_of_alternating hparts
  · rintro rfl
    induction items with
    | nil => exact ⟨[], alternating_nil, rfl, rfl⟩
    | cons s items ih =>
        cases items with
        | nil => exact ⟨[.item s], alternating_item s, rfl, String.append_empty.symm⟩
        | cons t items =>
            obtain ⟨parts, hparts, hitems, htext⟩ := ih
            have hne : parts ≠ [] := by
              rintro rfl
              exact nomatch hitems
            refine ⟨.item s :: .separator :: parts, alternating_item_separator.mpr ⟨hne, hparts⟩,
              congrArg (s :: ·) hitems, ?_⟩
            show s ++ sep ++ join sep (t :: items) = s ++ (sep ++ concat _)
            rw [htext, String.append_assoc]

-- ── The pen ───────────────────────────────────────────────────────────────────

/-- A list in the making: what is written of it, and what is due in front of the next item. -/
structure Pen where
  written : String
  due : String

namespace Pen

/-- Nothing is written, and the opening is due. -/
def start (opening : String) : Pen := ⟨"", opening⟩

/-- An item is written behind what is due, and from then on the separator is due. -/
def write (sep : String) (pen : Pen) (item : String) : Pen :=
  ⟨pen.written ++ pen.due ++ item, sep⟩

/-- Items are written one after the other. -/
def writeAll (sep : String) (pen : Pen) (items : List String) : Pen := items.foldl (write sep) pen

/-- A pen that was started has written some items and no others. -/
structure Wrote (opening sep : String) (items : List String) (pen : Pen) : Prop where
  nothing : items = [] → pen = start opening
  list : items ≠ [] → ∃ text, Separated sep items text ∧ pen = ⟨opening ++ text, sep⟩

variable {pen : Pen}

theorem wrote_start (opening sep : String) : Wrote opening sep [] (start opening) :=
  ⟨fun _ => rfl, fun hne => absurd rfl hne⟩

/-- One more item is written. -/
theorem Wrote.write (h : pen.Wrote opening sep items) (item : String) :
    (pen.write sep item).Wrote opening sep (items ++ [item]) := by
  refine ⟨fun hnil => absurd hnil (by simp), fun _ => ?_⟩
  by_cases hitems : items = []
  · rw [h.nothing hitems, hitems]
    refine ⟨item, separated_iff.mpr rfl, ?_⟩
    show (⟨"" ++ opening ++ item, sep⟩ : Pen) = _
    rw [String.empty_append]
  · obtain ⟨text, htext, rfl⟩ := h.list hitems
    refine ⟨text ++ sep ++ item, separated_iff.mpr ?_, ?_⟩
    · rw [join_append_of_ne_nil sep hitems (List.cons_ne_nil item []), ← separated_iff.mp htext]
      rfl
    · show (⟨opening ++ text ++ sep ++ item, sep⟩ : Pen) = _
      simp only [String.append_assoc]

/-- More items are written. The invariant is carried from one item to the next. -/
theorem Wrote.writeAll (h : pen.Wrote opening sep items) (more : List String) :
    (pen.writeAll sep more).Wrote opening sep (items ++ more) := by
  induction more generalizing pen items with
  | nil =>
      rw [List.append_nil]
      exact h
  | cons item more ih =>
      have hmore := ih (h.write item)
      rw [List.append_assoc] at hmore
      exact hmore

/-- Without an opening, what is written is the list. -/
theorem separated_iff_written :
    Separated sep items text ↔ text = ((start "").writeAll sep items).written := by
  have hwrote := (wrote_start "" sep).writeAll items
  rw [List.nil_append] at hwrote
  by_cases hitems : items = []
  · rw [hwrote.nothing hitems, hitems, separated_iff]
    rfl
  · obtain ⟨list, hlist, hpen⟩ := hwrote.list hitems
    rw [hpen, separated_iff, ← separated_iff.mp hlist]
    show _ ↔ text = "" ++ list
    rw [String.empty_append]

end Pen

end Text

open Text (Separated Pen)

-- ── Tables ────────────────────────────────────────────────────────────────────

/-- What stands between the parentheses of a table: every definition on a line of its own, with
    commas at the ends of all lines but the last, or nothing but the end of the line. -/
structure LaidOut (definitions : List String) (body : String) : Prop where
  empty : definitions = [] → body = "\n"
  lines : definitions ≠ [] → ∃ list, Separated ",\n    " definitions list ∧
    body = Text.concat ["\n    ", list, "\n"]

/-- The body of a table as it is written: one loop writes columns and key, and another one goes on
    with the same pen and writes the foreign keys. -/
def writtenBody (own keyTexts : List String) : String :=
  Text.concat [
    (((Pen.start definitionBreak).writeAll definitionSeparator own).writeAll
      definitionSeparator keyTexts).written,
    "\n"]

/-- A table is laid out in one way only, which is the way it is written. -/
theorem laidOut_iff {definitions : List String} {body : String} :
    LaidOut definitions body ↔ body = tableBody definitions := by
  by_cases hnil : definitions = []
  · subst hnil
    exact ⟨fun h => h.empty rfl, fun h => ⟨fun _ => h, fun hne => absurd rfl hne⟩⟩
  · rw [tableBody, if_neg (by simpa using hnil)]
    constructor
    · intro h
      obtain ⟨list, hlist, rfl⟩ := h.lines hnil
      rw [Text.separated_iff.mp hlist]
      rfl
    · rintro rfl
      exact ⟨fun h => absurd h hnil, fun _ => ⟨_, Text.separated_iff.mpr rfl, rfl⟩⟩

/-- The two loops lay out all definitions, whichever of them has any. -/
theorem laidOut_writtenBody (own keyTexts : List String) :
    LaidOut (own ++ keyTexts) (writtenBody own keyTexts) := by
  have hown := (Pen.wrote_start definitionBreak definitionSeparator).writeAll own
  have hwrote := hown.writeAll keyTexts
  rw [List.nil_append] at hwrote
  constructor
  · intro hnil
    rw [writtenBody, hwrote.nothing hnil]
    rfl
  · intro hne
    obtain ⟨list, hlist, hpen⟩ := hwrote.list hne
    refine ⟨list, hlist, ?_⟩
    rw [writtenBody, hpen]
    show definitionBreak ++ list ++ ("\n" ++ "") = definitionBreak ++ (list ++ ("\n" ++ ""))
    rw [String.append_assoc]

/-- A table without columns, of which only foreign keys are written. -/
example : writtenBody [] ["a", "b"] = "\n    a,\n    b\n" := by decide +kernel

-- ── Foreign keys and indices ──────────────────────────────────────────────────

/-- A foreign key as it is written, with its two lists of columns. -/
def ForeignKey.ListedAs (p : Platform) (target : Entity) (key : ForeignKey) (text : String) :
    Prop :=
  ∃ columns referenced, Separated ", " (key.columns.map p.identifier) columns ∧
    Separated ", " (key.referencedColumns.map p.identifier) referenced ∧
    text = Text.concat [
      "CONSTRAINT ", p.identifier key.name,
      " FOREIGN KEY ", "(", columns, ")",
      " REFERENCES ", p.tableName target, " ", "(", referenced, ")",
      actionClause "UPDATE" key.onUpdate, actionClause "DELETE" key.onDelete]

/-- A foreign key lists its columns in one way only, which is the way it is written. -/
theorem ForeignKey.listedAs_iff {p : Platform} {target : Entity} {key : ForeignKey}
    {text : String} : key.ListedAs p target text ↔ text = key.render p target := by
  have hrender : key.render p target = Text.concat [
      "CONSTRAINT ", p.identifier key.name,
      " FOREIGN KEY ", "(", Text.join ", " (key.columns.map p.identifier), ")",
      " REFERENCES ", p.tableName target,
      " ", "(", Text.join ", " (key.referencedColumns.map p.identifier), ")",
      actionClause "UPDATE" key.onUpdate, actionClause "DELETE" key.onDelete] := by
    simp only [render, columnList, Text.concat, String.append_assoc, String.append_empty]
  rw [ForeignKey.ListedAs, hrender]
  simp only [Text.separated_iff, exists_eq_left, exists_and_left]

/-- A column of an index: its name, and on platforms that know prefix lengths its length, if it has
    one, in parentheses. -/
def indexEntry (p : Platform) (f : IndexField) : String :=
  Text.concat [
    p.identifier f.name,
    if p.profile.hasIndexSize then f.size.elim "" fun n => Text.concat ["(", toString n, ")"]
    else ""]

theorem indexColumn_eq (p : Platform) : indexColumn p = indexEntry p := by
  funext f
  rw [indexColumn, indexEntry]
  cases f.size with
  | none => rfl
  | some n => rfl

/-- The clauses of an index, with its columns as they are listed. -/
theorem Index.render_eq (p : Platform) (e : Entity) (index : Index) :
    index.render p e = Text.concat [
      "CREATE ", if index.unique then "UNIQUE " else "", "INDEX ",
      p.identifier (index.nameOn e.table), " ON ", p.tableName e,
      " ", "(", Text.join ", " (index.fields.map (indexEntry p)), ")"] := by
  simp only [render, columnList, indexColumn_eq, Text.concat, String.append_empty]

-- ── Statements ────────────────────────────────────────────────────────────────

/-- The definitions of a table are its columns, and behind them the primary key clause if there is
    one. -/
theorem ownDefinitions_eq (p : Platform) (e : Entity) :
    ownDefinitions p e = e.fields.map p.column ++
      (if p.primaryKeyClause e = "" then [] else [p.primaryKeyClause e]) := by
  rw [ownDefinitions, List.filter_singleton]
  by_cases hkey : p.primaryKeyClause e = ""
  · rw [if_pos hkey, hkey]
    rfl
  · have hsome : (p.primaryKeyClause e).isEmpty = false := by simpa using hkey
    rw [if_neg hkey, hsome]
    rfl

namespace Statement

/-- Every list of a statement has exactly the right separators. A statement that creates a table is
    written with all its definitions laid out: the columns in order, the primary key if it has a
    clause, and the foreign keys in order. Columns of indices and of foreign keys, in a table or
    added to one, are separated by commas. Loops that know only what is due in front of the next
    item write the same, and there is nothing else that is laid out or separated so. -/
theorem separators_exact (db : Database) (p : Platform) :
    (∀ id keys text, (createTable id keys).render db p = .ok text ↔
      ∃ e keyTexts body, db.entity? id = some e ∧
        List.Forall₂ (fun key keyText => ∃ target, db.entity? key.references = some target ∧
          key.ListedAs p target keyText) keys keyTexts ∧
        LaidOut (e.fields.map p.column ++
          (if p.primaryKeyClause e = "" then [] else [p.primaryKeyClause e]) ++ keyTexts) body ∧
        text = Text.concat ["CREATE TABLE ", p.tableName e, " (", body, ")",
          behindBlank (p.tableOptions e), ";"]) ∧
    (∀ id position text, (createIndex id position).render db p = .ok text ↔
      ∃ e index columns, db.entity? id = some e ∧ e.indices[position]? = some index ∧
        Separated ", " (index.fields.map (indexEntry p)) columns ∧
        text = Text.concat ["CREATE ", if index.unique then "UNIQUE " else "", "INDEX ",
          p.identifier (index.nameOn e.table), " ON ", p.tableName e,
          " ", "(", columns, ")", ";"]) ∧
    (∀ key text, (addForeignKey key).render db p = .ok text ↔
      ∃ owner target keyText, db.entity? key.table = some owner ∧
        db.entity? key.references = some target ∧ key.ListedAs p target keyText ∧
        text = Text.concat ["ALTER TABLE ", p.tableName owner, " ADD ", keyText, ";"]) ∧
    (∀ own keyTexts body, LaidOut (own ++ keyTexts) body ↔ body = writtenBody own keyTexts) ∧
    ∀ items text, Separated ", " items text ↔
      text = ((Pen.start "").writeAll ", " items).written := by
  refine ⟨fun id keys text => ?_, fun id position text => ?_, fun key text => ?_,
    fun own keyTexts body => ?_, fun items text => Pen.separated_iff_written⟩
  · simp only [render_eq_ok, laidOut_iff, ForeignKey.listedAs_iff, ← ownDefinitions_eq]
    constructor
    · rintro ⟨_, hbody, rfl⟩
      cases hbody with
      | createTable he htexts =>
          exact ⟨_, _, _, he, renderForeignKeys_eq_ok.mp htexts, rfl, Text.concat_pair _ _⟩
    · rintro ⟨e, keyTexts, _, he, htexts, rfl, rfl⟩
      refine ⟨_, .createTable he (renderForeignKeys_eq_ok.mpr htexts), ?_⟩
      rw [createTableText, Text.concat_pair]
      rfl
  · simp only [render_eq_ok, Text.separated_iff]
    constructor
    · rintro ⟨_, hbody, rfl⟩
      cases hbody with
      | createIndex he hindex =>
          refine ⟨_, _, _, he, hindex, rfl, ?_⟩
          rw [Index.render_eq, Text.concat_pair]
          rfl
    · rintro ⟨e, index, _, he, hindex, rfl, rfl⟩
      refine ⟨_, .createIndex he hindex, ?_⟩
      rw [Index.render_eq, Text.concat_pair]
      rfl
  · simp only [render_eq_ok, ForeignKey.listedAs_iff]
    constructor
    · rintro ⟨_, hbody, rfl⟩
      cases hbody with
      | addForeignKey howner htarget =>
          exact ⟨_, _, _, howner, htarget, rfl, Text.concat_pair _ _⟩
    · rintro ⟨owner, target, _, howner, htarget, rfl, rfl⟩
      refine ⟨_, .addForeignKey howner htarget, ?_⟩
      rw [addForeignKeyText, Text.concat_pair]
      rfl
  · rw [laidOut_iff, ← laidOut_iff.mp (laidOut_writtenBody own keyTexts)]

end Statement

end SchemaDdl
