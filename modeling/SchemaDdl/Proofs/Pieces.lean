import SchemaDdl.Text.Pieces

/-!
# Pieces and what they are cut from

Cutting a text at a separator and joining the pieces again gives the text back, whatever the text.
The other way round it takes parts that do not hold the separator, and at least one of them, for a
text without separators is still one piece.

* **`Text.join_pieces`**, **`Text.split_join`**: the two ways.
* **`Text.not_mem_of_mem_pieces`**: no piece holds the separator.
-/

namespace SchemaDdl.Text

section Pieces

variable {sep : Char} {cs piece rest : List Char}

/-- There is always a piece, if only an empty one. -/
theorem pieces_ne_nil (sep : Char) (cs : List Char) : pieces sep cs ≠ [] := by
  cases cs with
  | nil => exact nofun
  | cons c cs =>
      rw [pieces]
      split
      · exact nofun
      · split <;> exact nofun

/-- Without a separator the text is one piece. -/
theorem pieces_of_not_mem (h : sep ∉ cs) : pieces sep cs = [cs] := by
  induction cs with
  | nil => rfl
  | cons c cs ih =>
      rw [List.mem_cons, not_or] at h
      rw [pieces, if_neg (Ne.symm h.1), ih h.2]

/-- No piece contains the separator. -/
theorem not_mem_of_mem_pieces (h : piece ∈ pieces sep cs) : sep ∉ piece := by
  induction cs generalizing piece with
  | nil =>
      rw [List.mem_singleton.mp h]
      exact List.not_mem_nil
  | cons c cs ih =>
      obtain ⟨p, ps, hpieces⟩ := List.exists_cons_of_ne_nil (pieces_ne_nil sep cs)
      rw [hpieces] at ih
      rw [pieces, hpieces] at h
      split at h
      · rcases List.mem_cons.mp h with rfl | h
        · exact List.not_mem_nil
        · exact ih h
      · rename_i hc
        rcases List.mem_cons.mp h with rfl | h
        · rw [List.mem_cons, not_or]
          exact ⟨Ne.symm hc, ih List.mem_cons_self⟩
        · exact ih (List.mem_cons_of_mem p h)

/-- What stands before the first separator is the first piece. -/
theorem pieces_append_sep (h : sep ∉ piece) :
    pieces sep (piece ++ sep :: rest) = piece :: pieces sep rest := by
  induction piece with
  | nil =>
      show pieces sep (sep :: rest) = _
      rw [pieces, if_pos rfl]
  | cons c cs ih =>
      rw [List.mem_cons, not_or] at h
      rw [List.cons_append, pieces, if_neg (Ne.symm h.1), ih h.2]

/-- Behind the last separator a text can grow by characters that are none. Only the last piece grows
    with it. -/
theorem pieces_append_of_not_mem (cs : List Char) (h : sep ∉ rest) :
    ∃ front last, pieces sep cs = front ++ [last] ∧
      pieces sep (cs ++ rest) = front ++ [last ++ rest] := by
  induction cs with
  | nil => exact ⟨[], [], rfl, pieces_of_not_mem h⟩
  | cons c cs ih =>
      obtain ⟨front, last, hpieces, hgrown⟩ := ih
      rw [List.cons_append, pieces, pieces, hpieces, hgrown]
      by_cases hc : c = sep
      · rw [if_pos hc, if_pos hc]
        exact ⟨[] :: front, last, rfl, rfl⟩
      · rw [if_neg hc, if_neg hc]
        cases front with
        | nil => exact ⟨[], c :: last, rfl, rfl⟩
        | cons p front => exact ⟨(c :: p) :: front, last, rfl, rfl⟩

end Pieces

-- ── Joining ───────────────────────────────────────────────────────────────────

/-- What stands in front of the first part stands in front of the whole. -/
theorem join_append (sep t s : String) (rest : List String) :
    join sep ((t ++ s) :: rest) = t ++ join sep (s :: rest) := by
  cases rest with
  | nil => rfl
  | cons s' rest => simp [join, String.append_assoc]

/-- The pieces of a text, joined again. -/
theorem join_pieces (sep : Char) (cs : List Char) :
    join (String.singleton sep) ((pieces sep cs).map String.ofList) = String.ofList cs := by
  induction cs with
  | nil => rfl
  | cons c cs ih =>
      obtain ⟨p, ps, hpieces⟩ := List.exists_cons_of_ne_nil (pieces_ne_nil sep cs)
      rw [pieces, String.ofList_cons, ← ih, hpieces]
      split
      · rename_i hc
        subst hc
        show "" ++ String.singleton c ++ _ = _
        rw [String.empty_append]
      · rw [List.map_cons, List.map_cons, ← join_append, ← String.ofList_cons]

/-- Between the first two parts stands the separator, one character. -/
theorem toList_join_cons_cons (sep : Char) (part next : String) (parts : List String) :
    (join (String.singleton sep) (part :: next :: parts)).toList =
      part.toList ++ sep :: (join (String.singleton sep) (next :: parts)).toList := by
  rw [join, String.toList_append, String.toList_append, String.toList_singleton,
    List.append_assoc, List.singleton_append]
  exact nofun

/-- Splitting at a text of one character is splitting at the character. -/
theorem split_singleton (sep : Char) (s : String) :
    split (String.singleton sep) s = (pieces sep s.toList).map String.ofList := by
  rw [split, String.toList_singleton]
  rfl

/-- Parts without separators, cut again. -/
theorem split_join {sep : Char} {parts : List String} (hne : parts ≠ [])
    (h : ∀ part ∈ parts, sep ∉ part.toList) :
    split (String.singleton sep) (join (String.singleton sep) parts) = parts := by
  rw [split_singleton]
  induction parts with
  | nil => exact absurd rfl hne
  | cons part parts ih =>
      have hpart : sep ∉ part.toList := h part List.mem_cons_self
      cases parts with
      | nil =>
          show (pieces sep part.toList).map String.ofList = [part]
          rw [pieces_of_not_mem hpart, List.map_singleton, String.ofList_toList]
      | cons next parts =>
          have hrest := ih (List.cons_ne_nil next parts)
            fun part' hpart' => h part' (List.mem_cons_of_mem part hpart')
          rw [toList_join_cons_cons, pieces_append_sep hpart, List.map_cons, String.ofList_toList,
            hrest]

end SchemaDdl.Text
