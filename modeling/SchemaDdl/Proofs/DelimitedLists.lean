import SchemaDdl.Document.Node
import SchemaDdl.Proofs.Lists
import SchemaDdl.Proofs.Pieces
import Mathlib.Data.List.DropRight

/-!
# Lists between commas

A document may give a list as one text, with commas between its items. The text is trimmed, cut and
trimmed again item by item. The first trimming decides whether there is a list at all; beyond that
it does nothing that the second would not do, for no comma is a blank. So items come back as they
were written, empty ones included, in whatever blanks they stand. Only the list of one empty item
cannot be told from the empty list.

* **`Text.isTrimmed`**, **`Text.Padded`**: no blank at an end, and blanks around a text.
* **`Text.map_trim_split`**: blanks around a text do not reach its pieces.
* **`Document.listOf_eq`**: a list without the first trimming.
* **`Document.listOf_roundTrip`**: what is written as a text or as an array is read as the items.
-/

namespace SchemaDdl

namespace Text

variable {cs before behind : List Char} {s padded : String}

-- ── Trimming ──────────────────────────────────────────────────────────────────

/-- No blank at the beginning or at the end. -/
def isTrimmed (s : String) : Bool :=
  s.toList.head?.all (!isBlank ·) && s.toList.getLast?.all (!isBlank ·)

/-- A text between blanks. There need not be any. -/
def Padded (s padded : String) : Prop :=
  ∃ before behind, isBlankText before = true ∧ isBlankText behind = true ∧
    padded = before ++ s ++ behind

/-- Blanks in front do not matter. -/
theorem trimChars_append_left (h : before.all isBlank = true) :
    trimChars (before ++ cs) = trimChars cs := by
  rw [trimChars, List.dropWhile_append_of_pos (List.all_eq_true.mp h)]
  rfl

/-- Nothing is left by trimming exactly if there was nothing but blanks. -/
theorem trimChars_eq_nil : trimChars cs = [] ↔ cs.all isBlank = true := by
  rw [List.all_eq_true]
  constructor
  · intro h c hc
    have hdropped : ∀ c ∈ cs.dropWhile isBlank, isBlank c = true :=
      List.rdropWhile_eq_nil_iff.mp h
    rw [← List.takeWhile_append_dropWhile (p := isBlank) (l := cs)] at hc
    rcases List.mem_append.mp hc with hc | hc
    · exact List.mem_takeWhile_imp hc
    · exact hdropped c hc
  · intro h
    rw [trimChars, List.dropWhile_eq_nil_iff.mpr h]
    rfl

/-- Blanks behind do not matter either. -/
theorem trimChars_append_right (h : behind.all isBlank = true) :
    trimChars (cs ++ behind) = trimChars cs := by
  by_cases hcs : cs.all isBlank = true
  · rw [trimChars_append_left hcs, trimChars_eq_nil.mpr hcs, trimChars_eq_nil.mpr h]
  · have hne : ¬ (cs.dropWhile isBlank).isEmpty = true := by
      intro hempty
      rw [List.isEmpty_iff, List.dropWhile_eq_nil_iff, ← List.all_eq_true] at hempty
      exact hcs hempty
    have hbehind : ∀ c ∈ behind.reverse, isBlank c = true :=
      fun c hc => List.all_eq_true.mp h c (List.mem_reverse.mp hc)
    rw [trimChars, List.dropWhile_append, if_neg hne, List.reverse_append,
      List.dropWhile_append_of_pos hbehind]
    rfl

/-- What trimming drops are blanks. -/
theorem exists_append_trimChars (cs : List Char) : ∃ before behind,
    before.all isBlank = true ∧ behind.all isBlank = true ∧
      cs = before ++ trimChars cs ++ behind := by
  refine ⟨cs.takeWhile isBlank, (cs.dropWhile isBlank).rtakeWhile isBlank,
    List.all_eq_true.mpr fun c hc => List.mem_takeWhile_imp hc,
    List.all_eq_true.mpr fun c hc => List.mem_rtakeWhile_imp hc, ?_⟩
  show cs = cs.takeWhile isBlank ++ (cs.dropWhile isBlank).rdropWhile isBlank ++ _
  rw [List.append_assoc, List.rdropWhile_append_rtakeWhile, List.takeWhile_append_dropWhile]

/-- A text is what trimming leaves of it, between blanks. -/
theorem padded_trim (s : String) : Padded (trim s) s := by
  obtain ⟨before, behind, hbefore, hbehind, hs⟩ := exists_append_trimChars s.toList
  refine ⟨String.ofList before, String.ofList behind, ?_, ?_, ?_⟩
  · rw [isBlankText, String.toList_ofList, hbefore]
  · rw [isBlankText, String.toList_ofList, hbehind]
  · rw [trim, ← String.ofList_append, ← String.ofList_append, ← hs, String.ofList_toList]

/-- Padding a text does not change what trimming leaves of it. -/
theorem trim_of_padded (h : Padded s padded) : trim padded = trim s := by
  obtain ⟨before, behind, hbefore, hbehind, rfl⟩ := h
  rw [trim, String.toList_append, String.toList_append, trimChars_append_right hbehind,
    trimChars_append_left hbefore]
  rfl

/-- Nothing is dropped from a list that does not begin with what is to be dropped. -/
theorem dropWhile_of_head? (h : cs.head?.all (!isBlank ·) = true) : cs.dropWhile isBlank = cs := by
  cases cs with
  | nil => rfl
  | cons c cs =>
      have hc : isBlank c = false := by simpa using h
      rw [List.dropWhile_cons, hc]
      rfl

/-- Trimming leaves a text alone that has no blanks at its ends. -/
theorem trim_of_isTrimmed (h : isTrimmed s = true) : trim s = s := by
  obtain ⟨hhead, hlast⟩ := Bool.and_eq_true_iff.mp h
  rw [← List.head?_reverse] at hlast
  rw [trim, trimChars, dropWhile_of_head? hhead, dropWhile_of_head? hlast, List.reverse_reverse,
    String.ofList_toList]

/-- Trimming takes away the blanks around a trimmed text, and nothing else. -/
theorem trim_eq_of_padded (h : Padded s padded) (hs : isTrimmed s = true) : trim padded = s := by
  rw [trim_of_padded h, trim_of_isTrimmed hs]

theorem head?_dropWhile (cs : List Char) :
    (cs.dropWhile isBlank).head?.all (!isBlank ·) = true := by
  have hnot := List.head?_dropWhile_not isBlank cs
  cases hhead : (cs.dropWhile isBlank).head? with
  | none => rfl
  | some c =>
      rw [hhead] at hnot
      simpa using hnot

/-- Trimming leaves no blank at either end. -/
theorem isTrimmed_trim (s : String) : isTrimmed (trim s) = true := by
  rw [isTrimmed, trim, String.toList_ofList, Bool.and_eq_true]
  constructor
  · -- what is left begins like what is left behind the blanks in front
    have hfront := head?_dropWhile s.toList
    rw [← List.rdropWhile_append_rtakeWhile (p := isBlank) (l := s.toList.dropWhile isBlank),
      List.head?_append] at hfront
    cases hhead : (trimChars s.toList).head? with
    | none => rfl
    | some c =>
        have hhead' : ((s.toList.dropWhile isBlank).rdropWhile isBlank).head? = some c := hhead
        rw [hhead'] at hfront
        exact hfront
  · rw [trimChars, List.getLast?_reverse]
    exact head?_dropWhile _

/-- Only a blank text is empty after trimming. -/
theorem isEmpty_trim (s : String) : (trim s).isEmpty = isBlankText s := by
  rw [Bool.eq_iff_iff, String.isEmpty_iff, isBlankText, ← trimChars_eq_nil, trim]
  constructor
  · intro h
    have hchars := congrArg String.toList h
    rw [String.toList_ofList] at hchars
    exact hchars
  · intro h
    rw [h]

-- ── Pieces of trimmed texts ───────────────────────────────────────────────────

section Pieces

variable {sep : Char}

theorem not_mem_of_all_isBlank (hsep : isBlank sep = false) (h : cs.all isBlank = true) :
    sep ∉ cs := by
  intro hmem
  rw [List.all_eq_true.mp h sep hmem] at hsep
  exact nomatch hsep

/-- Blanks in front of a text go to its first piece. -/
theorem map_trimChars_pieces_left (hsep : isBlank sep = false) (h : before.all isBlank = true) :
    (pieces sep (before ++ cs)).map trimChars = (pieces sep cs).map trimChars := by
  induction before with
  | nil => rfl
  | cons c before ih =>
      rw [List.all_cons, Bool.and_eq_true] at h
      have hc : c ≠ sep := by
        rintro rfl
        rw [h.1] at hsep
        exact nomatch hsep
      obtain ⟨p, ps, hpieces⟩ := List.exists_cons_of_ne_nil (pieces_ne_nil sep (before ++ cs))
      have hblank : List.all [c] isBlank = true := by simpa using h.1
      have htrim : trimChars (c :: p) = trimChars p := trimChars_append_left hblank
      rw [List.cons_append, pieces, if_neg hc, ← ih h.2, hpieces, List.map_cons, List.map_cons,
        htrim]

/-- Blanks behind a text go to its last piece. -/
theorem map_trimChars_pieces_right (hsep : isBlank sep = false) (h : behind.all isBlank = true) :
    (pieces sep (cs ++ behind)).map trimChars = (pieces sep cs).map trimChars := by
  obtain ⟨front, last, hpieces, hgrown⟩ :=
    pieces_append_of_not_mem cs (not_mem_of_all_isBlank hsep h)
  rw [hgrown, hpieces, List.map_append, List.map_append, List.map_singleton, List.map_singleton,
    trimChars_append_right h]

theorem map_trim_split_eq (s : String) : (split (String.singleton sep) s).map trim =
    ((pieces sep s.toList).map trimChars).map String.ofList := by
  rw [split_singleton, List.map_map, List.map_map]
  refine List.map_congr_left fun piece _ => ?_
  show trim (String.ofList piece) = String.ofList (trimChars piece)
  rw [trim, String.toList_ofList]

/-- Blanks around a text do not reach its pieces, if those are trimmed. -/
theorem map_trim_split (hsep : isBlank sep = false) (h : Padded s padded) :
    (split (String.singleton sep) padded).map trim = (split (String.singleton sep) s).map trim := by
  obtain ⟨before, behind, hbefore, hbehind, rfl⟩ := h
  rw [map_trim_split_eq, map_trim_split_eq, String.toList_append, String.toList_append,
    map_trimChars_pieces_right hsep hbehind, map_trimChars_pieces_left hsep hbefore]

end Pieces

end Text

namespace Document

open Text (isTrimmed Padded)

-- ── Lists ─────────────────────────────────────────────────────────────────────

theorem comma_eq : "," = String.singleton ',' := rfl

theorem isBlank_comma : Text.isBlank ',' = false := by decide

/-- The first trimming decides whether there are items, and the items do not depend on it. -/
theorem listOf_eq (s : String) :
    listOf s = if Text.isBlankText s then [] else (Text.split "," s).map Text.trim := by
  show (if (Text.trim s).isEmpty then [] else (Text.split "," (Text.trim s)).map Text.trim) = _
  rw [Text.isEmpty_trim, comma_eq, Text.map_trim_split isBlank_comma (Text.padded_trim s)]

/-- A list has no items exactly if its text is blank; a comma alone makes two empty ones. -/
theorem listOf_eq_nil {s : String} : listOf s = [] ↔ Text.isBlankText s = true := by
  rw [listOf_eq]
  by_cases h : Text.isBlankText s = true
  · rw [if_pos h]
    exact iff_of_true rfl h
  · rw [if_neg h, List.map_eq_nil_iff, comma_eq, Text.split_singleton, List.map_eq_nil_iff]
    exact iff_of_false (Text.pieces_ne_nil _ _) h

/-- Padding adds no commas. -/
theorem not_mem_of_padded {s padded : String} (h : Padded s padded) (hs : ',' ∉ s.toList) :
    ',' ∉ padded.toList := by
  obtain ⟨before, behind, hbefore, hbehind, rfl⟩ := h
  rw [String.toList_append, String.toList_append, List.mem_append, List.mem_append, not_or, not_or]
  exact ⟨⟨Text.not_mem_of_all_isBlank isBlank_comma hbefore, hs⟩,
    Text.not_mem_of_all_isBlank isBlank_comma hbehind⟩

/-- Items are trimmed, and no item holds a comma. -/
theorem of_mem_listOf {s item : String} (h : item ∈ listOf s) :
    isTrimmed item = true ∧ ',' ∉ item.toList := by
  rw [listOf_eq] at h
  split at h
  · exact absurd h List.not_mem_nil
  · obtain ⟨piece, hpiece, rfl⟩ := List.mem_map.mp h
    refine ⟨Text.isTrimmed_trim piece, fun hcomma => ?_⟩
    rw [comma_eq, Text.split_singleton] at hpiece
    obtain ⟨cs, hcs, rfl⟩ := List.mem_map.mp hpiece
    -- a comma of the item is one of the piece that it is trimmed from
    obtain ⟨before, behind, -, -, hpadded⟩ := Text.padded_trim (String.ofList cs)
    have hmem : ',' ∈ (String.ofList cs).toList := by
      rw [hpadded, String.toList_append, String.toList_append]
      exact List.mem_append_left _ (List.mem_append_right _ hcomma)
    rw [String.toList_ofList] at hmem
    exact Text.not_mem_of_mem_pieces hcs hmem

section RoundTrip

variable {items padded : List String}

/-- Only no items and a single empty one are written as blanks. -/
theorem isBlankText_join (hpadded : List.Forall₂ Padded items padded)
    (htrimmed : ∀ item ∈ items, isTrimmed item = true) (hne : items ≠ []) (hempty : items ≠ [""]) :
    Text.isBlankText (Text.join "," padded) = false := by
  rw [Bool.eq_false_iff]
  intro hblank
  cases hpadded with
  | nil => exact hne rfl
  | @cons item text items padded hitem hrest =>
      cases hrest with
      | nil =>
          -- a single item would be empty
          have hnone : item.isEmpty = true := by
            rw [← Text.trim_eq_of_padded hitem (htrimmed item List.mem_cons_self),
              Text.isEmpty_trim]
            exact hblank
          rw [String.isEmpty_iff.mp hnone] at hempty
          exact hempty rfl
      | @cons _ next _ padded _ _ =>
          rw [Text.isBlankText, comma_eq, Text.toList_join_cons_cons, List.all_append,
            List.all_cons, isBlank_comma, Bool.false_and, Bool.and_false] at hblank
          exact nomatch hblank

/-- Items without blanks at their ends come back from between blanks. -/
theorem map_trim_of_padded (hpadded : List.Forall₂ Padded items padded)
    (htrimmed : ∀ item ∈ items, isTrimmed item = true) : padded.map Text.trim = items := by
  induction hpadded with
  | nil => rfl
  | @cons item text items padded hitem _ ih =>
      obtain ⟨htrim, hrest⟩ := List.forall_mem_cons.mp htrimmed
      rw [List.map_cons, Text.trim_eq_of_padded hitem htrim, ih hrest]

/-- Items written with commas between them are read back. -/
theorem listOf_join (hpadded : List.Forall₂ Padded items padded)
    (hitems : ∀ item ∈ items, isTrimmed item = true ∧ ',' ∉ item.toList) (hempty : items ≠ [""]) :
    listOf (Text.join "," padded) = items := by
  have htrimmed : ∀ item ∈ items, isTrimmed item = true := fun item hitem => (hitems item hitem).1
  by_cases hne : items = []
  · subst hne
    cases hpadded
    exact listOf_eq_nil.mpr rfl
  · have hpieces : ∀ text ∈ padded, ',' ∉ text.toList := by
      intro text htext
      obtain ⟨item, hitem, hpad⟩ := forall₂_mem_right hpadded htext
      exact not_mem_of_padded hpad (hitems item hitem).2
    have hne' : padded ≠ [] := by
      rintro rfl
      cases hpadded
      exact hne rfl
    rw [listOf_eq, isBlankText_join hpadded htrimmed hne hempty, comma_eq,
      Text.split_join hne' hpieces, map_trim_of_padded hpadded htrimmed]
    rfl

/-- Items of an array are read as they are, if they are trimmed. -/
theorem stringItems_text (n : Node) (key : String)
    (htrimmed : ∀ item ∈ items, isTrimmed item = true) :
    n.stringItems key (items.map .text) = .ok items := by
  induction items with
  | nil => rfl
  | cons item items ih =>
      obtain ⟨htrim, hrest⟩ := List.forall_mem_cons.mp htrimmed
      rw [List.map_cons, Node.stringItems, ih hrest, Text.trim_of_isTrimmed htrim]
      rfl

end RoundTrip

/-- Lists come back as they were written. Trimmed items without commas, unless there is one only and
    it is empty, are read from a text that has commas between them and blanks around them, and a
    node reads them from that text and from an array of them. Whatever the text, the items that are
    read from it are trimmed and hold no comma, and there are none exactly if it is blank. -/
theorem listOf_roundTrip :
    (∀ items padded : List String, items ≠ [""] →
      (∀ item ∈ items, isTrimmed item = true ∧ ',' ∉ item.toList) →
      List.Forall₂ Padded items padded →
      listOf (Text.join "," padded) = items ∧
      ∀ (n n' : Node) (key key' : String),
        n.get? key = some (.text (Text.join "," padded)) →
        n'.get? key' = some (.array (items.map .text)) →
        n.list key = .ok items ∧ n'.list key' = .ok items) ∧
    ∀ s, (∀ item ∈ listOf s, isTrimmed item = true ∧ ',' ∉ item.toList) ∧
      (listOf s = [] ↔ Text.isBlankText s = true) := by
  refine ⟨?_, fun s => ⟨fun item hitem => of_mem_listOf hitem, listOf_eq_nil⟩⟩
  intro items padded hempty hitems hpadded
  have hread : listOf (Text.join "," padded) = items := listOf_join hpadded hitems hempty
  refine ⟨hread, fun n n' key key' htext harray => ⟨?_, ?_⟩⟩
  · rw [Node.list, htext]
    show (n.scalar? key).map (fun s => listOf (s.getD "")) = _
    rw [Node.scalar?, htext]
    exact congrArg Except.ok hread
  · rw [Node.list, harray]
    exact stringItems_text n' key' fun item hitem => (hitems item hitem).1

/-- A list with an empty item between two others, written as a text and as an array. -/
theorem listOf_roundTrip_statuses :
    ["draft", "", "in print"] ≠ [""] ∧
    (∀ item ∈ ["draft", "", "in print"], isTrimmed item = true ∧ ',' ∉ item.toList) ∧
    List.Forall₂ Padded ["draft", "", "in print"] [" draft", "\t", "in print\n"] ∧
    listOf " draft,\t,in print\n" = ["draft", "", "in print"] ∧
    ∃ n n', Node.of .document (.object [("valueSet", .text " draft,\t,in print\n")]) = .ok n ∧
      Node.of .document (.object [("valueSet", .array
        [.text "draft", .text "", .text "in print"])]) = .ok n' ∧
      n.list "valueSet" = .ok ["draft", "", "in print"] ∧
      n'.list "valueSet" = .ok ["draft", "", "in print"] := by
  have hempty : ["draft", "", "in print"] ≠ [""] := by decide
  have hitems : ∀ item ∈ ["draft", "", "in print"], isTrimmed item = true ∧ ',' ∉ item.toList := by
    decide +kernel
  have hpadded : List.Forall₂ Padded ["draft", "", "in print"] [" draft", "\t", "in print\n"] :=
    .cons ⟨" ", "", by decide +kernel, rfl, by decide +kernel⟩ <|
      .cons ⟨"\t", "", by decide +kernel, rfl, by decide +kernel⟩ <|
      .cons ⟨"", "\n", rfl, by decide +kernel, by decide +kernel⟩ .nil
  have hjoin : Text.join "," [" draft", "\t", "in print\n"] = " draft,\t,in print\n" := by
    decide +kernel
  obtain ⟨hread, hnodes⟩ := listOf_roundTrip.1 _ _ hempty hitems hpadded
  rw [hjoin] at hread hnodes
  -- the only member of an object is found under its own key
  have hget (v : Json) (hv : v.isNull = false) :
      Node.get? ⟨.document, Node.membersOf [("valueSet", v)]⟩ "valueSet" = some v := by
    rw [Node.get?, Node.membersOf, List.filter_singleton, hv]
    show List.lookup (Text.lower "valueSet") [(Text.lower "valueSet", v)] = some v
    rw [List.lookup_cons_self]
  obtain ⟨htext, harray⟩ := hnodes _ _ _ _ (hget (.text " draft,\t,in print\n") rfl)
    (hget (.array [.text "draft", .text "", .text "in print"]) rfl)
  exact ⟨hempty, hitems, hpadded, hread, _, _, rfl, rfl, htext, harray⟩

end Document

end SchemaDdl
