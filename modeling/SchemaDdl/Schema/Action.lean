import SchemaDdl.Text.Blank
import SchemaDdl.Text.Case

/-!
# Referential actions

What happens to referencing rows when a referenced row changes. Three actions are known by name;
whatever else is asked for is passed through in upper case.
-/

namespace SchemaDdl

/-- What a foreign key does on update or on delete. -/
inductive ReferentialAction where
  | none
  | cascade
  | setNull
  | restrict
  | other (name : String)
  deriving DecidableEq, Repr

namespace ReferentialAction

/-- The action that a text asks for. Blanks around it and its case do not count. -/
def ofText (s : String) : ReferentialAction :=
  let name := Text.upper (Text.trim s)
  if name = "" ∨ name = "NONE" then none
  else if name = "CASCADE" then cascade
  else if name = "SETNULL" ∨ name = "SET NULL" then setNull
  else if name = "RESTRICT" then restrict
  else other name

/-- The action that an optional text asks for. -/
def ofText? (s : Option String) : ReferentialAction := (s.map ofText).getD none

/-- The clause of an action; empty if there is none. -/
def text : ReferentialAction → String
  | none => ""
  | cascade => "CASCADE"
  | setNull => "SET NULL"
  | restrict => "RESTRICT"
  | other name => name

/-- Whether there is no action. -/
def isNone : ReferentialAction → Bool
  | none => true
  | _ => false

end ReferentialAction

end SchemaDdl
