/-!
# Quoted text

Text stands between two copies of a mark, and a mark inside the text is written twice. With the
apostrophe this is a string literal; with a double quote or a backtick it is an identifier.
-/

namespace SchemaDdl.Text

/-- Write every mark twice. -/
def doubled (mark : Char) : List Char → List Char
  | [] => []
  | c :: cs => if c = mark then mark :: mark :: doubled mark cs else c :: doubled mark cs

/-- Put characters between marks. -/
def quotedChars (mark : Char) (cs : List Char) : List Char :=
  mark :: (doubled mark cs ++ [mark])

/-- Put a text between marks. -/
def quoted (mark : Char) (s : String) : String :=
  String.ofList (quotedChars mark s.toList)

end SchemaDdl.Text
