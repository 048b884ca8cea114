import SchemaDdl.Number.Numeral
import SchemaDdl.Text.Blank
import SchemaDdl.Text.Case
import SchemaDdl.Text.Pieces

/-!
# Loosely typed scalars

A document may give a truth value or a list as a text. These are the two readings.
-/

namespace SchemaDdl.Document

/-- Words that stand for true, in lower case. -/
def trueWords : List String := ["true", "t", "y", "yes"]

/-- The truth value of a text. A number is true unless it is zero; one that is too large for a
    number is none. Of all other texts only a few words are true. -/
def truthOf (s : String) : Bool :=
  let s := Text.trim s
  let number := (Number.Numeral.read? s).bind (·.toBinary64?)
  number.elim (trueWords.contains (Text.lower s)) fun x => !x.isZero

/-- The items of a text between commas, each trimmed; none if the text is blank. -/
def listOf (s : String) : List String :=
  let s := Text.trim s
  if s.isEmpty then [] else (Text.split "," s).map Text.trim

end SchemaDdl.Document
