import SchemaDdl.Proofs.Lists
import SchemaDdl.Proofs.Pieces
import SchemaDdl.Platform.Basic

/-!
# Reading quoted text back

Text between marks cannot end before its mark, because a mark inside of it is written twice. A
reader that knows nothing but that rule, and is not told where the text ends, finds the end: the
first mark that is not followed by another one. All of this is said with an arbitrary rest behind
the text, so that it can be used for a part of a longer text, such as a name in a list of names.

* **`Text.Reader`**: something that is read from the beginning of a text, with the rest.
* **`Text.betweenMarks_eq_some`**: what the reader of quoted text takes, and where it stops.
* **`Text.Reader.Reads.separated`**: reading a list of things with a separator between them.
* **`Platform.identifier_reads`**: an identifier is read back as its parts.
* **`Platform.quoted_readBack`**: identifiers, lists of them and literals are read back.
-/

namespace SchemaDdl

namespace Text

/-- A reader takes something from the beginning of a text and gives it with the rest of the text,
    which is shorter. -/
structure Reader (α : Type) where
  read : List Char → Option (α × List Char)
  shrinks : ∀ {text rest : List Char} {a : α}, read text = some (a, rest) →
    rest.length < text.length

-- ── Quoted text ───────────────────────────────────────────────────────────────

/-- What stands before the first mark that is not written twice, and what stands behind it. -/
def untilMark (mark : Char) : List Char → Option (List Char × List Char)
  | [] => none
  | [c] => if c = mark then some ([], []) else none
  | c :: c' :: cs =>
    if c = mark then
      if c' = mark then (untilMark mark cs).map fun found => (mark :: found.1, found.2)
      else some ([], c' :: cs)
    else (untilMark mark (c' :: cs)).map fun found => (c :: found.1, found.2)

/-- Between an opening mark and the one that closes it. -/
def betweenMarks (mark : Char) : List Char → Option (String × List Char)
  | [] => none
  | c :: cs =>
    if c = mark then (untilMark mark cs).map fun found => (String.ofList found.1, found.2) else none

section Marks

variable {mark : Char} {text rest value : List Char}

/-- The end of a quoted text is found, unless what stands behind it begins with a mark. -/
theorem untilMark_doubled (h : rest.head? ≠ some mark) :
    untilMark mark (doubled mark value ++ mark :: rest) = some (value, rest) := by
  induction value with
  | nil =>
      cases rest with
      | nil => simp [doubled, untilMark]
      | cons c rest =>
          have hc : c ≠ mark := fun hc => h (congrArg some hc)
          simp [doubled, untilMark, hc]
  | cons c value ih =>
      by_cases hc : c = mark
      · subst hc
        simp [doubled, untilMark, ih]
      · cases hv : doubled mark value ++ mark :: rest with
        | nil => simp at hv
        | cons c' text =>
            rw [hv] at ih
            simp [doubled, untilMark, hc, hv, ih]

/-- Nothing else is taken for a quoted text. -/
theorem untilMark_eq_some (h : untilMark mark text = some (value, rest)) :
    text = doubled mark value ++ mark :: rest ∧ rest.head? ≠ some mark := by
  induction text using untilMark.induct mark generalizing value with
  | case1 => exact nomatch h
  | case2 =>
      simp only [untilMark, if_true, Option.some.injEq, Prod.mk.injEq] at h
      obtain ⟨rfl, rfl⟩ := h
      exact ⟨rfl, nofun⟩
  | case3 c hc => simp [untilMark, hc] at h
  | case4 cs ih =>
      simp only [untilMark, if_true, Option.map_eq_some_iff, Prod.mk.injEq] at h
      obtain ⟨found, hcs, rfl, rfl⟩ := h
      obtain ⟨htext, hrest⟩ := ih hcs
      exact ⟨by simp [doubled, ← htext], hrest⟩
  | case5 c' cs hc' =>
      simp only [untilMark, hc', if_true, if_false, Option.some.injEq, Prod.mk.injEq] at h
      obtain ⟨rfl, rfl⟩ := h
      exact ⟨rfl, fun hhead => hc' (Option.some.inj hhead)⟩
  | case6 c c' cs hc ih =>
      simp only [untilMark, hc, if_false, Option.map_eq_some_iff, Prod.mk.injEq] at h
      obtain ⟨found, hcs, rfl, rfl⟩ := h
      obtain ⟨htext, hrest⟩ := ih hcs
      exact ⟨by simp [doubled, hc, ← htext], hrest⟩

/-- The reader of quoted text takes a quoted text that has no further mark behind it, and nothing
    else. -/
theorem betweenMarks_eq_some {s : String} :
    betweenMarks mark text = some (s, rest) ↔
      text = (quoted mark s).toList ++ rest ∧ rest.head? ≠ some mark := by
  have hquoted : (quoted mark s).toList ++ rest =
      mark :: (doubled mark s.toList ++ mark :: rest) := by
    simp [quoted, quotedChars]
  rw [hquoted]
  constructor
  · intro h
    cases text with
    | nil => exact nomatch h
    | cons c cs =>
        rw [betweenMarks] at h
        split at h
        · rename_i hc
          obtain ⟨found, hcs, heq⟩ := Option.map_eq_some_iff.mp h
          obtain ⟨rfl, rfl⟩ := Prod.mk.inj heq
          obtain ⟨htext, hrest⟩ := untilMark_eq_some hcs
          exact ⟨by rw [String.toList_ofList, hc, htext], hrest⟩
        · exact nomatch h
  · rintro ⟨rfl, hrest⟩
    rw [betweenMarks, if_pos rfl, untilMark_doubled hrest]
    simp

end Marks

namespace Reader

variable {α : Type} {item : Reader α} {sep : String} {text rest : List Char} {a : α}

/-- The reader of a text between marks. -/
def quoted (mark : Char) : Reader String where
  read := betweenMarks mark
  shrinks := by
    intro text rest s h
    have hopen : 0 < (Text.quoted mark s).toList.length := by simp [Text.quoted, quotedChars]
    rw [(betweenMarks_eq_some.mp h).1, List.length_append]
    omega

-- ── Lists ─────────────────────────────────────────────────────────────────────

/-- As many items as have a separator between them, at least one. -/
def listFrom (item : Reader α) (sep : String) (text : List Char) : Option (List α × List Char) :=
  match _h : item.read text with
  | none => none
  | some (a, rest) =>
    if sep.toList.isPrefixOf rest then
      (item.listFrom sep (rest.drop sep.toList.length)).map fun found => (a :: found.1, found.2)
    else some ([a], rest)
termination_by text.length
decreasing_by
  have hshorter := item.shrinks _h
  rw [List.length_drop]
  omega

/-- A list that does not start with an item is none. -/
theorem listFrom_eq_none (h : item.read text = none) : item.listFrom sep text = none := by
  rw [listFrom]
  split
  · rfl
  · rename_i hread
    rw [h] at hread
    exact nomatch hread

/-- Behind the first item stands a separator with the rest of the list, or the list ends. -/
theorem listFrom_of_read (h : item.read text = some (a, rest)) :
    item.listFrom sep text =
      if sep.toList.isPrefixOf rest then
        (item.listFrom sep (rest.drop sep.toList.length)).map fun found => (a :: found.1, found.2)
      else some ([a], rest) := by
  rw [listFrom]
  split
  · rename_i hread
    rw [h] at hread
    exact nomatch hread
  · rename_i hread
    rw [h] at hread
    obtain ⟨rfl, rfl⟩ := Prod.mk.inj (Option.some.inj hread)
    rfl

/-- A list takes at least one item off the text, so less is left, as a reader has to show. -/
theorem listFrom_shrinks {as : List α} (h : item.listFrom sep text = some (as, rest)) :
    rest.length < text.length := by
  induction text using Reader.listFrom.induct item sep generalizing as with
  | case1 text hread =>
      rw [listFrom_eq_none hread] at h
      exact nomatch h
  | case2 text a behind hread hsep ih =>
      rw [listFrom_of_read hread, if_pos hsep] at h
      obtain ⟨found, hfound, heq⟩ := Option.map_eq_some_iff.mp h
      obtain ⟨rfl, rfl⟩ := Prod.mk.inj heq
      have hitem := item.shrinks hread
      have hrest := ih hfound
      rw [List.length_drop] at hrest
      omega
  | case3 text a behind hread hsep =>
      rw [listFrom_of_read hread, if_neg hsep] at h
      obtain ⟨rfl, rfl⟩ := Prod.mk.inj (Option.some.inj h)
      exact item.shrinks hread

/-- The reader of a list of items with a separator between neighbours. -/
def separated (item : Reader α) (sep : String) : Reader (List α) where
  read := item.listFrom sep
  shrinks := listFrom_shrinks

/-- A reader that has to take the whole text. -/
def readAll (r : Reader α) (s : String) : Option α :=
  match r.read s.toList with
  | some (a, []) => some a
  | _ => none

-- ── Reading back ──────────────────────────────────────────────────────────────

/-- A reader takes exactly a text, and finds a value in it, whatever stands behind the text as long
    as that may stand there. -/
def Reads (r : Reader α) (behind : List Char → Prop) (s : String) (a : α) : Prop :=
  ∀ rest, behind rest → r.read (s.toList ++ rest) = some (a, rest)

/-- A text that is read whatever stands behind it is read if nothing does. -/
theorem Reads.readAll {r : Reader α} {behind : List Char → Prop} {s : String}
    (h : r.Reads behind s a) (hend : behind []) : r.readAll s = some a := by
  have hread := h [] hend
  rw [List.append_nil] at hread
  rw [Reader.readAll, hread]

/-- Nothing is read from an empty text. -/
theorem readAll_empty (r : Reader α) : r.readAll "" = none := by
  rw [readAll, String.toList_empty]
  cases hread : r.read [] with
  | none => rfl
  | some found => exact absurd (r.shrinks hread) (Nat.not_lt_zero _)

theorem quoted_reads (mark : Char) (s : String) :
    (quoted mark).Reads (·.head? ≠ some mark) (Text.quoted mark s) s :=
  fun _ h => betweenMarks_eq_some.mpr ⟨rfl, h⟩

/-- A list is read back item by item, if a separator may stand behind an item. Behind the list there
    may be whatever may stand behind an item and does not begin with a separator. -/
theorem Reads.separated {behind : List Char → Prop} {texts : List String} {as : List α}
    (h : List.Forall₂ (item.Reads behind) texts as) (hne : as ≠ [])
    (hsep : ∀ rest, behind (sep.toList ++ rest)) :
    (item.separated sep).Reads (fun rest => behind rest ∧ ¬ sep.toList <+: rest)
      (join sep texts) as := by
  intro rest hrest
  show item.listFrom sep _ = _
  induction h with
  | nil => exact absurd rfl hne
  | @cons s a texts as hitem hitems ih =>
      cases hitems with
      | nil =>
          rw [join, listFrom_of_read (hitem rest hrest.1)]
          exact if_neg fun hprefix => hrest.2 (List.isPrefixOf_iff_prefix.mp hprefix)
      | @cons s' a' texts as hitem' hitems =>
          have hbehind := hitem (sep.toList ++ ((join sep (s' :: texts)).toList ++ rest)) (hsep _)
          have htext : (join sep (s :: s' :: texts)).toList ++ rest =
              s.toList ++ (sep.toList ++ ((join sep (s' :: texts)).toList ++ rest)) := by
            simp [join]
          rw [htext, listFrom_of_read hbehind, if_pos (by simp), List.drop_left,
            ih (List.cons_ne_nil a' as)]
          rfl

end Reader

end Text

-- ── Platforms ─────────────────────────────────────────────────────────────────

namespace Platform

open Text (Reader)

/-- The parts of an identifier are read back in order, joined with the delimiter. -/
theorem join_split_delimiter (s : String) :
    Text.join schemaDelimiter (Text.split schemaDelimiter s) = s := by
  have hdelimiter : schemaDelimiter = String.singleton (Char.ofNat 0x2E) := rfl
  rw [hdelimiter, Text.split_singleton, Text.join_pieces, String.ofList_toList]

theorem split_delimiter_ne_nil (s : String) : Text.split schemaDelimiter s ≠ [] := by
  have hdelimiter : schemaDelimiter = String.singleton (Char.ofNat 0x2E) := rfl
  rw [hdelimiter, Text.split_singleton]
  exact fun h => Text.pieces_ne_nil _ _ (List.map_eq_nil_iff.mp h)

/-- The reader of identifiers: parts between marks with dots between them. -/
def identifierReader (p : Platform) : Reader (List String) :=
  (Reader.quoted p.profile.identifierMark).separated schemaDelimiter

/-- Read a list of identifiers with a delimiter between them, each joined from its parts. Of an
    empty list nothing is written. -/
def readIdentifiers (p : Platform) (delimiter s : String) : Option (List String) :=
  if s.isEmpty then some []
  else ((p.identifierReader.separated delimiter).readAll s).map
    fun names => names.map (Text.join schemaDelimiter)

/-- The reader of string literals. -/
def literalReader : Reader String := Reader.quoted (Char.ofNat 0x27)

variable {p : Platform}

/-- What may stand behind a quoted identifier: no mark and no dot. -/
def BehindIdentifier (p : Platform) (rest : List Char) : Prop :=
  rest.head? ≠ some p.profile.identifierMark ∧ ¬ schemaDelimiter.toList <+: rest

/-- A quoted identifier is read back as its parts between dots, also from the middle of a text. -/
theorem identifier_reads (hq : p.quoting = true) (s : String) :
    p.identifierReader.Reads p.BehindIdentifier (p.identifier s)
      (Text.split schemaDelimiter s) := by
  have hparts : List.Forall₂ ((Reader.quoted p.profile.identifierMark).Reads
      (·.head? ≠ some p.profile.identifierMark))
      ((Text.split schemaDelimiter s).map p.marked) (Text.split schemaDelimiter s) :=
    List.forall₂_map_left_iff.mpr (List.forall₂_same.mpr fun part _ => Reader.quoted_reads _ part)
  rw [identifier, if_pos hq]
  refine Reader.Reads.separated hparts (split_delimiter_ne_nil s) fun rest => ?_
  -- no dialect quotes with dots
  cases hp : p.dialect <;> simp [profile, hp, Dialect.profile, schemaDelimiter]

/-- Different identifiers are written differently, quoted or not. -/
theorem identifier_injective (p : Platform) : Function.Injective p.identifier := by
  intro s s' h
  by_cases hq : p.quoting = true
  · have hread : ∀ s, p.identifierReader.readAll (p.identifier s) =
        some (Text.split schemaDelimiter s) :=
      fun s => (identifier_reads hq s).readAll ⟨nofun, by decide⟩
    have hsame := (hread s).symm.trans ((congrArg _ h).trans (hread s'))
    rw [← join_split_delimiter s, Option.some.inj hsame, join_split_delimiter]
  · rwa [identifier, identifier, if_neg hq, if_neg hq] at h

/-- A list of quoted identifiers is read back name by name. -/
theorem readIdentifiers_identifiers (hq : p.quoting = true) (names : List String) :
    p.readIdentifiers ", " (p.identifiers names ", ") = some names := by
  cases names with
  | nil => rfl
  | cons name names =>
      have hnames : List.Forall₂ (p.identifierReader.Reads p.BehindIdentifier)
          ((name :: names).map p.identifier)
          ((name :: names).map (Text.split schemaDelimiter)) :=
        List.forall₂_map_left_iff.mpr (List.forall₂_map_right_iff.mpr
          (List.forall₂_same.mpr fun name _ => identifier_reads hq name))
      have hcomma : ∀ rest, p.BehindIdentifier (", ".toList ++ rest) := by
        intro rest
        -- no dialect quotes with commas
        cases hp : p.dialect <;>
          simp [BehindIdentifier, profile, hp, Dialect.profile, schemaDelimiter]
      have hread := (Reader.Reads.separated hnames nofun hcomma).readAll
        ⟨⟨nofun, by decide⟩, by decide⟩
      have hjoined : ((name :: names).map (Text.split schemaDelimiter)).map
          (Text.join schemaDelimiter) = name :: names := by
        rw [List.map_map]
        exact (List.map_congr_left fun name _ => join_split_delimiter name).trans (List.map_id _)
      rw [readIdentifiers, identifiers, if_neg, hread, Option.map_some, hjoined]
      intro hempty
      rw [String.isEmpty_iff.mp hempty, Reader.readAll_empty] at hread
      exact nomatch hread

/-- Quoted text cannot escape its quotes. With quoting, an identifier is read back as its parts
    between dots, with nothing left over, and so it can be recovered and no two are written alike;
    a list of identifiers is read back as the list; and a string literal as the one text in it. -/
theorem quoted_readBack (hq : p.quoting = true) :
    (∀ s, p.identifierReader.readAll (p.identifier s) = some (Text.split schemaDelimiter s) ∧
      Text.join schemaDelimiter (Text.split schemaDelimiter s) = s) ∧
    Function.Injective p.identifier ∧
    (∀ names, p.readIdentifiers ", " (p.identifiers names ", ") = some names) ∧
    ∀ s, literalReader.readAll (p.literal s) = some s :=
  ⟨fun s => ⟨(identifier_reads hq s).readAll ⟨nofun, by decide⟩, join_split_delimiter s⟩,
    p.identifier_injective, readIdentifiers_identifiers hq,
    fun s => (Reader.quoted_reads _ s).readAll nofun⟩

/-- A name that begins with a dot and holds what would close it, and a text of apostrophes. -/
theorem quoted_readBack_mysql :
    identifier ⟨.mysql "InnoDB", true⟩ ".a`, `b" = "``.`a``, ``b`" ∧
    readIdentifiers ⟨.mysql "InnoDB", true⟩ ", " "``.`a``, ``b`, ``" = some [".a`, `b", ""] ∧
    literalReader.readAll "''''''" = some "''" := by
  obtain ⟨-, -, hnames, hliterals⟩ := quoted_readBack (p := ⟨.mysql "InnoDB", true⟩) rfl
  have hlist : identifiers ⟨.mysql "InnoDB", true⟩ [".a`, `b", ""] ", " = "``.`a``, ``b`, ``" := by
    decide +kernel
  have hliteral : literal ⟨.mysql "InnoDB", true⟩ "''" = "''''''" := by decide +kernel
  exact ⟨by decide +kernel, hlist ▸ hnames [".a`, `b", ""], hliteral ▸ hliterals "''"⟩

end Platform

end SchemaDdl
