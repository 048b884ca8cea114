import SchemaDdl.Platform.Table
import SchemaDdl.Proofs.VendorBlocks

/-!
# Options of a table

The options of a MySQL table are parameters of its `mysql` block. Blocks tell parameters apart by
their exact names and keep each at its first place, but the options are looked up by names in
whatever case, and the first match counts. So a parameter that is declared again in another spelling
does not replace the earlier one: of the parameters of a name, the last one in the spelling of the
first one counts.

* **`Platform.optionsText`**: the options of a table, given the value that each of them has.
* **`VendorBlocks.lastValue?`**, **`VendorBlocks.keptValue?`**: the value of the last parameter of a
  name, and the one that is found under the name.
* **`VendorBlocks.LastCounts`**: when the two are the same.
* **`Platform.tableOptions_declared`**: the options of a table whose blocks were declared one by one.
-/

namespace SchemaDdl

-- ── Searching from the end ────────────────────────────────────────────────────

section Ends

variable {α : Type} {has : α → Prop} {l : List α} {a : α}

/-- The first item from the end is the last one. -/
theorem firstWith_reverse : FirstWith has l.reverse a ↔ LastWith has l a := by
  constructor
  · rintro ⟨before, after, hl, ha, hbefore⟩
    refine ⟨after.reverse, before.reverse, ?_, ha, fun b hb => hbefore b (List.mem_reverse.mp hb)⟩
    rw [← List.reverse_reverse l, hl]
    simp
  · rintro ⟨before, after, rfl, ha, hafter⟩
    exact ⟨after.reverse, before.reverse, by simp, ha, fun b hb => hafter b (List.mem_reverse.mp hb)⟩

/-- A search from the end finds the last item that passes the test. -/
theorem find?_reverse_eq_some_lastWith {test : α → Bool} (htest : ∀ b, test b = true ↔ has b) :
    l.reverse.find? test = some a ↔ LastWith has l a :=
  (find?_eq_some_firstWith htest).trans firstWith_reverse

end Ends

namespace OrderedMap

variable {α β : Type} [DecidableEq α] {m : OrderedMap α β}

/-- A search finds the same if repetitions are erased, since the first of equal items stays. -/
theorem find?_eraseDups (test : α → Bool) (l : List α) : l.eraseDups.find? test = l.find? test := by
  induction l using List.reverseRecOn with
  | nil => rfl
  | append_singleton l a ih =>
      rw [eraseDups_concat, List.find?_append, ← ih]
      split
      · rename_i hold
        cases hfound : l.eraseDups.find? test with
        | some b => rfl
        | none =>
            -- an item that is there already and was not found does not pass the test
            have hfails := List.find?_eq_none.mp hfound a hold
            rw [Option.none_or, List.find?_singleton, if_neg hfails]
      · rw [List.find?_append]

/-- The value of the first entry whose key passes a test is what the map answers for that key. -/
theorem find?_entries (h : m.keys.Nodup) (test : α → Bool) :
    (m.entries.find? fun e => test e.1).map Prod.snd = (m.keys.find? test).bind m.get? := by
  rw [keys, List.find?_map]
  show _ = ((m.entries.find? fun e => test e.1).map Prod.fst).bind m.get?
  cases hfound : m.entries.find? fun e => test e.1 with
  | none => rfl
  | some e => exact ((get?_eq_some_iff h).mpr (List.mem_of_find?_eq_some hfound)).symm

end OrderedMap

-- ── Values of a name ──────────────────────────────────────────────────────────

namespace VendorBlocks

variable {ps : List (String × String)} {key value : String}

/-- A parameter has a name, up to the case of ASCII letters. -/
def Named (key : String) (p : String × String) : Prop := Text.sameIgnoringAsciiCase p.1 key = true

instance (key : String) (p : String × String) : Decidable (Named key p) :=
  inferInstanceAs (Decidable (_ = true))

/-- The value of the last parameter of a name. -/
def lastValue? (ps : List (String × String)) (key : String) : Option String :=
  (ps.reverse.find? fun p => Text.sameIgnoringAsciiCase p.1 key).map Prod.snd

/-- The value of the last parameter that is spelled like the first one of a name. -/
def keptValue? (ps : List (String × String)) (key : String) : Option String :=
  (ps.find? fun p => Text.sameIgnoringAsciiCase p.1 key).bind fun first =>
    (OrderedMap.ofList ps).get? first.1

/-- The last parameter of a name has the value of the last one that is spelled like the first. -/
def LastCounts (ps : List (String × String)) (key : String) : Prop :=
  ∀ first last, FirstWith (Named key) ps first → LastWith (Named key) ps last →
    LastWith (·.1 = first.1) ps (first.1, last.2)

/-- A name has as last value what the last parameter of the name has, however it is spelled. -/
theorem lastValue?_eq_some :
    lastValue? ps key = some value ↔ ∃ name, LastWith (Named key) ps (name, value) := by
  rw [lastValue?, Option.map_eq_some_iff]
  constructor
  · rintro ⟨p, hfound, rfl⟩
    exact ⟨p.1, (find?_reverse_eq_some_lastWith fun _ => Iff.rfl).mp hfound⟩
  · rintro ⟨name, hlast⟩
    exact ⟨(name, value), (find?_reverse_eq_some_lastWith fun _ => Iff.rfl).mpr hlast, rfl⟩

/-- The kept value is found in two steps: the first parameter of a name says which spelling counts,
    and the last parameter in this spelling says the value. -/
theorem keptValue?_eq_some :
    keptValue? ps key = some value ↔ ∃ first, FirstWith (Named key) ps first ∧
      LastWith (·.1 = first.1) ps (first.1, value) := by
  rw [keptValue?, Option.bind_eq_some_iff]
  refine exists_congr fun first => and_congr ?_ OrderedMap.get?_ofList
  exact find?_eq_some_firstWith fun _ => Iff.rfl

/-- Under a name in whatever case stands the value of the last parameter in the spelling of the
    first one. -/
theorem option?_ofList (kind : String) (ps : List (String × String)) (key : String) :
    VendorBlock.option? ⟨kind, .ofList ps⟩ key = keptValue? ps key := by
  rw [VendorBlock.option?,
    OrderedMap.find?_entries (OrderedMap.nodup_keys_ofList ps) (Text.sameIgnoringAsciiCase · key),
    OrderedMap.keys_ofList, OrderedMap.find?_eraseDups, List.find?_map, Option.bind_map]
  rfl

theorem lastValue?_eq_none : lastValue? ps key = none ↔ ∀ p ∈ ps, ¬ Named key p := by
  rw [lastValue?, Option.map_eq_none_iff, List.find?_eq_none]
  simp only [List.mem_reverse]
  rfl

/-- Nor is there a kept value then, since the spelling that counts comes from a parameter. -/
theorem keptValue?_eq_none : keptValue? ps key = none ↔ ∀ p ∈ ps, ¬ Named key p := by
  have hfound : keptValue? ps key = none ↔
      (ps.find? fun p => Text.sameIgnoringAsciiCase p.1 key) = none := by
    rw [keptValue?]
    cases hfirst : ps.find? fun p => Text.sameIgnoringAsciiCase p.1 key with
    | none => exact iff_of_true rfl rfl
    | some first =>
        -- the first parameter of a name is there, so its spelling is a key
        have hkey : first.1 ∈ (OrderedMap.ofList ps).keys := by
          rw [OrderedMap.keys_ofList, List.mem_eraseDups]
          exact List.mem_map_of_mem (List.mem_of_find?_eq_some hfirst)
        obtain ⟨value, hvalue⟩ := OrderedMap.mem_keys_iff.mp hkey
        rw [Option.bind_some, hvalue]
        exact iff_of_false nofun nofun
  rw [hfound, List.find?_eq_none]
  rfl

/-- The last parameter of a name is the one that is found if and only if it has the value of the
    last one in the spelling of the first. -/
theorem keptValue?_eq_lastValue? : keptValue? ps key = lastValue? ps key ↔ LastCounts ps key := by
  have hfind : ∀ p, (ps.find? fun p => Text.sameIgnoringAsciiCase p.1 key) = some p ↔
      FirstWith (Named key) ps p := fun _ => find?_eq_some_firstWith fun _ => Iff.rfl
  constructor
  · intro h first last hfirst hlast
    have hvalue : lastValue? ps key = some last.2 := lastValue?_eq_some.mpr ⟨last.1, hlast⟩
    obtain ⟨first', hfirst', hown⟩ := keptValue?_eq_some.mp (h.trans hvalue)
    have hsame : first = first' :=
      Option.some.inj (((hfind first).mpr hfirst).symm.trans ((hfind first').mpr hfirst'))
    rw [hsame]
    exact hown
  · intro h
    cases hlast : lastValue? ps key with
    | none => exact keptValue?_eq_none.mpr (lastValue?_eq_none.mp hlast)
    | some value =>
        obtain ⟨name, hname⟩ := lastValue?_eq_some.mp hlast
        cases hfirst : keptValue? ps key with
        | none =>
            rw [lastValue?_eq_none.mpr (keptValue?_eq_none.mp hfirst)] at hlast
            exact nomatch hlast
        | some own =>
            obtain ⟨first, hfirst', -⟩ := keptValue?_eq_some.mp hfirst
            rw [← hfirst]
            exact keptValue?_eq_some.mpr ⟨first, hfirst', h first (name, value) hfirst' hname⟩

/-- It is found where a name has one spelling only. -/
theorem lastCounts_of_oneSpelling
    (h : ∀ p ∈ ps, ∀ q ∈ ps, Named key p → Named key q → p.1 = q.1) : LastCounts ps key := by
  rintro first last hfirst ⟨before, after, hps, hlast, hafter⟩
  have hmem : last ∈ ps := hps ▸ List.mem_append_right _ List.mem_cons_self
  have hname : last.1 = first.1 := h last hmem first hfirst.mem.1 hlast hfirst.mem.2
  refine ⟨before, after, by rw [← hname, hps], rfl, fun q hq hspelled => hafter q hq ?_⟩
  rw [Named, hspelled]
  exact hfirst.mem.2

end VendorBlocks

-- ── Tables ────────────────────────────────────────────────────────────────────

namespace Platform

open VendorBlocks

/-- The names under which the options of a table are looked up. -/
def optionKeys : List String := "engine" :: mysqlOptions.map Prod.fst

/-- The options of a MySQL table, given the value that each of them has: the engine, which there is
    in any case, the description, and the others that have a value, in fixed order. -/
def optionsText (p : Platform) (engine : String) (description : Option String)
    (value? : String → Option String) : String :=
  let comment := description.map fun s => Text.concat ["COMMENT=", p.literal s]
  let others := mysqlOptions.filterMap fun (name, text) =>
    (value? name).map fun value => Text.concat [text, "=", p.literal value]
  Text.join " " (Text.concat ["ENGINE=", (value? "engine").getD engine] ::
    comment.toList ++ others)

/-- Values that are not looked up do not show. -/
theorem optionsText_congr {p : Platform} {engine : String} {description : Option String}
    {value? value?' : String → Option String} (h : ∀ key ∈ optionKeys, value? key = value?' key) :
    p.optionsText engine description value? = p.optionsText engine description value?' := by
  have hothers : ∀ o ∈ mysqlOptions, value? o.1 = value?' o.1 :=
    fun o ho => h o.1 (List.mem_cons_of_mem _ (List.mem_map_of_mem ho))
  rw [optionsText, optionsText, h "engine" List.mem_cons_self]
  refine congrArg _ (congrArg _ (List.filterMap_congr fun o ho => ?_))
  show (value? o.1).map _ = (value?' o.1).map _
  rw [hothers o ho]

/-- The options of a table are those of its `mysql` block. -/
theorem tableOptions_mysql (engine : String) (quoting : Bool) (e : Entity) :
    tableOptions ⟨.mysql engine, quoting⟩ e =
      optionsText ⟨.mysql engine, quoting⟩ engine e.description
        (e.vendor.forKind "mysql").option? := rfl

/-- The options of a table whose vendor blocks were declared one by one. Each option has the value
    that is kept for its name, and none if no parameter has the name. The value that is kept is the
    last one that was declared if and only if the last one counts, and where this is so for all
    names, the table has the options that were declared last. -/
theorem tableOptions_declared (engine : String) (quoting : Bool) (e : Entity)
    (ds : List VendorDeclaration) :
    (tableOptions ⟨.mysql engine, quoting⟩ { e with vendor := VendorBlocks.empty.addAll ds } =
      optionsText ⟨.mysql engine, quoting⟩ engine e.description
        (keptValue? (declared ds "mysql"))) ∧
    (∀ key, (keptValue? (declared ds "mysql") key = none ↔
        ∀ p ∈ declared ds "mysql", ¬ Named key p) ∧
      (keptValue? (declared ds "mysql") key = lastValue? (declared ds "mysql") key ↔
        LastCounts (declared ds "mysql") key)) ∧
    ((∀ key ∈ optionKeys, LastCounts (declared ds "mysql") key) →
      tableOptions ⟨.mysql engine, quoting⟩ { e with vendor := VendorBlocks.empty.addAll ds } =
        optionsText ⟨.mysql engine, quoting⟩ engine e.description
          (lastValue? (declared ds "mysql"))) := by
  have hmysql : Text.lower "mysql" = "mysql" := by decide +kernel
  have hkept : tableOptions ⟨.mysql engine, quoting⟩
      { e with vendor := VendorBlocks.empty.addAll ds } =
        optionsText ⟨.mysql engine, quoting⟩ engine e.description
          (keptValue? (declared ds "mysql")) := by
    rw [tableOptions_mysql, forKind_addAll, hmysql]
    exact optionsText_congr fun key _ => option?_ofList _ _ key
  refine ⟨hkept, fun key => ⟨keptValue?_eq_none, keptValue?_eq_lastValue?⟩, fun h => ?_⟩
  rw [hkept]
  exact optionsText_congr fun key hkey => keptValue?_eq_lastValue?.mpr (h key hkey)

-- ── Declared again ────────────────────────────────────────────────────────────

/-- Options of books that are declared twice, under names that are spelled as before. -/
def bookOptions : List VendorDeclaration := [
  ⟨"MySQL", [("Engine", "MyISAM"), ("Charset", "latin1")]⟩,
  ⟨"pgsql", [("engine", "heap")]⟩,
  ⟨"mysql", [("Charset", "utf8mb4"), ("Engine", "Aria")]⟩]

/-- What is declared last counts. -/
theorem tableOptions_declared_book :
    (∀ key ∈ optionKeys, LastCounts (declared bookOptions "mysql") key) ∧
      tableOptions ⟨.mysql "InnoDB", false⟩
        { Entity.named "Book" with vendor := VendorBlocks.empty.addAll bookOptions } =
          "ENGINE=Aria CHARACTER SET='utf8mb4'" := by
  have hspelling : ∀ key ∈ optionKeys, ∀ p ∈ declared bookOptions "mysql",
      ∀ q ∈ declared bookOptions "mysql", Named key p → Named key q → p.1 = q.1 := by
    decide +kernel
  have hlast := fun key hkey => lastCounts_of_oneSpelling (hspelling key hkey)
  obtain ⟨-, -, htext⟩ := tableOptions_declared "InnoDB" false (Entity.named "Book") bookOptions
  exact ⟨hlast, (htext hlast).trans (by decide +kernel)⟩

/-- An engine that is declared again in another spelling does not count. -/
theorem tableOptions_respelled :
    ¬ ∀ (engine : String) (quoting : Bool) (e : Entity) (ds : List VendorDeclaration),
      tableOptions ⟨.mysql engine, quoting⟩ { e with vendor := VendorBlocks.empty.addAll ds } =
        optionsText ⟨.mysql engine, quoting⟩ engine e.description
          (lastValue? (declared ds "mysql")) := by
  intro h
  have hbook := h "InnoDB" false (Entity.named "Book")
    [⟨"mysql", [("Engine", "MyISAM")]⟩, ⟨"mysql", [("engine", "Aria")]⟩]
  exact absurd hbook (by decide +kernel)

end Platform

end SchemaDdl
