import SchemaDdl.Json.Written
import SchemaDdl.Settings.Basic

/-!
# Reading settings

Settings come as an object with known keys, or as an array of the values in order. Keys that are
missing keep their standard value. A known key that is written twice is refused; unknown keys are
skipped, and of their values nothing is asked but that brackets and tokens are right.
-/

namespace SchemaDdl.Settings

open Json (Written)

/-- The keys in the order of the array form. -/
inductive Key where
  | identifierQuoting
  | dropTables
  | mysqlEngine
  deriving DecidableEq, Repr

/-- All keys in the order of the array form. -/
def Key.all : List Key := [.identifierQuoting, .dropTables, .mysqlEngine]

/-- A key as it is written. -/
def Key.name : Key → String
  | identifierQuoting => "identifier_quoting"
  | dropTables => "drop_tables"
  | mysqlEngine => "mysql_engine"

/-- The key of a name. -/
def Key.ofName? (s : String) : Option Key := Key.all.find? (·.name == s)

/-- Set the value of a key. Only the quoting switch can be `null`. -/
def set? (s : Settings) (key : Key) (value : Written) : Option Settings :=
  match key, value with
  | .identifierQuoting, .null => some { s with identifierQuoting := none }
  | .identifierQuoting, .bool b => some { s with identifierQuoting := some b }
  | .dropTables, .bool b => some { s with dropTables := b }
  | .mysqlEngine, .text t => t.map fun engine => { s with mysqlEngine := engine }
  | _, _ => none

/-- Settings from members, given the keys that have been set already. -/
def ofMembers? (s : Settings) (seen : List Key) :
    List (Option String × Written) → Option Settings
  | [] => some s
  | (name, value) :: rest => do
    let name ← name
    match Key.ofName? name with
    | none => ofMembers? s seen rest
    | some key =>
      if seen.contains key then none
      else ofMembers? (← s.set? key value) (key :: seen) rest

/-- Settings from values in the order of the keys. -/
def ofItems? (s : Settings) : List Key → List Written → Option Settings
  | _, [] => some s
  | [], _ :: _ => none
  | key :: keys, value :: rest => do ofItems? (← s.set? key value) keys rest

/-- Settings from a document. -/
def ofWritten? : Written → Option Settings
  | .object members => ofMembers? standard [] members
  | .array items => ofItems? standard Key.all items
  | _ => none

/-- Settings from a text. -/
def read? (s : String) : Option Settings := do ofWritten? (← Written.read? s)

end SchemaDdl.Settings
