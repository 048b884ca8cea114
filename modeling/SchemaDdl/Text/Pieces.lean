/-!
# Cutting text at a separator

`pieces` cuts at a single character, `piecesOn` at a separator of any length, and `halves?` at the
first occurrence of a character only. A text of n separators always has n + 1 pieces, some of them
possibly empty, so that joining the pieces with the separator gives the text back.
-/

namespace SchemaDdl.Text

/-- Cut at every occurrence of `sep`. The result is never empty. -/
def pieces (sep : Char) : List Char → List (List Char)
  | [] => [[]]
  | c :: cs =>
    if c = sep then [] :: pieces sep cs
    else
      match pieces sep cs with
      | [] => [[c]]
      | p :: ps => (c :: p) :: ps

/-- Scan for a separator of several characters. `skip` characters of the separator found last are
    still to be passed over; `piece` is what the open piece holds so far, last character first. -/
def piecesFrom (sep : List Char) : (skip : Nat) → (piece : List Char) → List Char →
    List (List Char)
  | _, piece, [] => [piece.reverse]
  | skip + 1, piece, _ :: cs => piecesFrom sep skip piece cs
  | 0, piece, c :: cs =>
    if sep.isPrefixOf (c :: cs) then piece.reverse :: piecesFrom sep (sep.length - 1) [] cs
    else piecesFrom sep 0 (c :: piece) cs

/-- Cut at every occurrence of a separator. The empty separator occurs before, between and after
    all characters. -/
def piecesOn (sep : List Char) (cs : List Char) : List (List Char) :=
  match sep with
  | [] => [] :: (cs.map ([·]) ++ [[]])
  | [c] => pieces c cs
  | _ => piecesFrom sep 0 [] cs

/-- The pieces of a text between occurrences of a separator. -/
def split (sep s : String) : List String :=
  (piecesOn sep.toList s.toList).map String.ofList

/-- What stands before and after the first occurrence of a character. -/
def halvesChars? (sep : Char) : List Char → Option (List Char × List Char)
  | [] => none
  | c :: cs =>
    if c = sep then some ([], cs)
    else (halvesChars? sep cs).map fun h => (c :: h.1, h.2)

/-- The two halves of a text around the first occurrence of a character. -/
def halves? (sep : Char) (s : String) : Option (String × String) :=
  (halvesChars? sep s.toList).map fun h => (String.ofList h.1, String.ofList h.2)

/-- Texts one after the other. -/
def concat : List String → String
  | [] => ""
  | part :: parts => part ++ concat parts

/-- Texts joined with a separator between neighbours. -/
def join (sep : String) : List String → String
  | [] => ""
  | [part] => part
  | part :: parts => part ++ sep ++ join sep parts

/-- Two lists of texts are joined one behind the other, with the separator in between. -/
theorem join_append_of_ne_nil (sep : String) {parts parts' : List String} (h : parts ≠ [])
    (h' : parts' ≠ []) : join sep (parts ++ parts') = join sep parts ++ sep ++ join sep parts' := by
  induction parts with
  | nil => exact absurd rfl h
  | cons part parts ih =>
      cases parts with
      | nil =>
          cases parts' with
          | nil => exact absurd rfl h'
          | cons => rfl
      | cons next parts =>
          show part ++ sep ++ join sep (next :: parts ++ parts') = _
          rw [ih (List.cons_ne_nil next parts)]
          show _ = part ++ sep ++ join sep (next :: parts) ++ sep ++ join sep parts'
          simp only [String.append_assoc]

end SchemaDdl.Text
