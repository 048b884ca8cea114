import SchemaDdl.Finalize.Normalize

/-!
# Settings

What can be set for a run: whether identifiers are quoted whatever the schema says, whether tables
are dropped first, and the engine of MySQL tables.
-/

namespace SchemaDdl

/-- Settings of a run. -/
structure Settings where
  /-- Forces quoting on or off; without it the schema decides. -/
  identifierQuoting : Option Bool
  dropTables : Bool
  mysqlEngine : String
  deriving DecidableEq, Repr

namespace Settings

/-- Settings when nothing is set. -/
def standard : Settings := ⟨none, false, "InnoDB"⟩

/-- The dialect of a short name, or the refusal of a name that is none. -/
def dialect (s : Settings) (name : String) : Except Error Dialect :=
  (Dialect.ofName? s.mysqlEngine name).elim (.error (Refusal.unknownPlatform name).error) .ok

/-- The platform of a short name. -/
def platform (s : Settings) (name : String) : Except Error Platform :=
  (s.dialect name).map fun dialect => ⟨dialect, s.identifierQuoting.getD false⟩

/-- The platform of a short name for a database, which decides on quoting unless it is forced. -/
def platformFor (s : Settings) (name : String) (db : Database) : Except Error Platform :=
  (s.dialect name).map fun dialect =>
    ⟨dialect, (s.identifierQuoting.or db.identifierQuoting).getD false⟩

end Settings

end SchemaDdl
