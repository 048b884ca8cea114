import SchemaDdl.Command.Arguments
import SchemaDdl.Command.FileTree
import SchemaDdl.Ddl.Render
import SchemaDdl.Document.Load
import SchemaDdl.Finalize.Basic
import SchemaDdl.Settings.Reader

/-!
# Running the command

A run reads settings, then the schema, and prints the script of the finalized database. It is a
function of the arguments and of what the files hold, so that nothing but reading the files and
printing is left to do outside.

* **`execute`**: the result of a list of arguments, given the texts of the files.
-/

namespace SchemaDdl.Command

/-- How a run ends. -/
inductive Result where
  | printed (text : String)
  | failed (message : String)
  | misused
  deriving DecidableEq, Repr

/-- The exit code of a result. -/
def Result.code : Result → Nat
  | printed _ => 0
  | failed _ => 1
  | misused => 2

/-- How a run gets at files: by name, to the text or the reason why there is none. -/
abbrev Files := String → Except Unreadable String

/-- What the command answers to the question for its version. -/
def versionText : String := "sqlforge 0.1.0\n"

/-- Platform of a run that names none. -/
def defaultPlatform : String := "mysql"

/-- The wording for a file that cannot be read. -/
def unreadable (purpose name : String) (reason : Unreadable) : String :=
  Text.concat ["reading ", purpose, " `", name, "`: ", reason.message]

/-- The wording for a settings file that cannot be read as settings. -/
def badSettings (name : String) : String := Text.concat ["parsing config `", name, "`"]

/-- The wording for a schema file that gives no database, with the reasons if there are any. -/
def badSchema (name : String) (reasons : List String) : String :=
  Text.join ": " (Text.concat ["loading schema `", name, "`"] :: reasons)

/-- An error as it is reported: its text, and behind it what the note on top wraps. -/
def report (e : Error) : String := Text.join ": " (e.text :: e.source?.toList)

/-- The message of an operation that did not go through. -/
def failureMessage : Failure → String
  | .error e => report e
  | .missing m => m.message

/-- The settings of the settings file, or standard ones if no file is named. -/
def fileSettings (files : Files) (a : Arguments) : Except String Settings :=
  match a.config with
  | none => .ok .standard
  | some name =>
    match files name with
    | .error reason => .error (unreadable "config" name reason)
    | .ok text =>
      match Settings.read? text with
      | none => .error (badSettings name)
      | some s => .ok s

/-- The settings of a run: those of the file, with those given as options on top. -/
def settings (files : Files) (a : Arguments) : Except String Settings :=
  (fileSettings files a).map fun s =>
    { s with
      identifierQuoting := a.quoting?.or s.identifierQuoting
      dropTables := s.dropTables || a.drop }

/-- The database of the schema file. -/
def database (files : Files) (name : String) : Except String Database :=
  match files name with
  | .error reason => .error (unreadable "schema" name reason)
  | .ok text =>
    match Document.loadText text with
    | .ok db => .ok db
    | .error .notADocument => .error (badSchema name [])
    | .error (.invalid e) => .error (badSchema name [report e])

/-- The script of a database on a platform. -/
def scriptOn (p : Platform) (s : Settings) (db : Database) : Except String String :=
  match db.finalize p with
  | (_, .error f) => .error (failureMessage f)
  | (db, .ok ()) => (db.script p s).mapError failureMessage

/-- The script of a database for the platform of a run. -/
def script (s : Settings) (a : Arguments) (db : Database) : Except String String := do
  let p ← (s.platformFor (a.platform.getD defaultPlatform) db).mapError report
  scriptOn p s db

/-- A run, step by step: settings, schema, script. -/
def produce (files : Files) (a : Arguments) (schema : String) :
    Except String String := do
  let s ← settings files a
  let db ← database files schema
  script s a db

/-- The result of a list of arguments. -/
def execute (files : Files) (arguments : List String) : Result :=
  match Request.read? arguments with
  | none => .misused
  | some .version => .printed versionText
  | some (.run a schema) =>
    match produce files a schema with
    | .ok text => .printed text
    | .error message => .failed message

/-- The files that a list of arguments names. -/
def filesOf (arguments : List String) : List String :=
  match Request.read? arguments with
  | some (.run a schema) => a.config.toList ++ [schema]
  | _ => []

end SchemaDdl.Command
