/-!
# Command line arguments

Arguments are read from left to right. An option takes its value from behind an equals sign, from
the rest of a short option, or from the next argument, unless that looks like an option itself.
After two dashes alone, everything is positional.

* **`Arguments`**: what the options and the schema file come to.
* **`Request`**: a run with arguments, or a question for the version.
* **`Request.read?`**: the request of a list of arguments; nothing if they are not used rightly.
-/

namespace SchemaDdl.Command

/-- Options of a run, as far as they have been given. -/
structure Arguments where
  schema : Option String
  platform : Option String
  config : Option String
  verbosity : Option String
  quote : Bool
  noQuote : Bool
  drop : Bool
  deriving DecidableEq, Repr

/-- No options at all. -/
def Arguments.empty : Arguments := ⟨none, none, none, none, false, false, false⟩

/-- Options with a value. -/
inductive ValueOption where
  | platform
  | config
  | verbosity
  deriving DecidableEq, Repr

/-- Options without a value. -/
inductive Switch where
  | quote
  | noQuote
  | drop
  deriving DecidableEq, Repr

/-- Options that ask for something other than a run. -/
inductive Question where
  | version
  deriving DecidableEq, Repr

/-- An option. -/
inductive Opt where
  | value (o : ValueOption)
  | switch (s : Switch)
  | question (q : Question)
  deriving DecidableEq, Repr

/-- The option of a long name. -/
def Opt.ofLong? (name : String) : Option Opt :=
  match name with
  | "platform" => some (.value .platform)
  | "config" => some (.value .config)
  | "verbosity" => some (.value .verbosity)
  | "quote" => some (.switch .quote)
  | "no-quote" => some (.switch .noQuote)
  | "drop" => some (.switch .drop)
  | "version" => some (.question .version)
  | _ => none

/-- The option of a letter. -/
def Opt.ofShort? (letter : Char) : Option Opt :=
  match letter with
  | 'p' => some (.value .platform)
  | 'c' => some (.value .config)
  | 'V' => some (.question .version)
  | _ => none

/-- Give an option its value, once. A file must have a name. -/
def Arguments.setValue? (a : Arguments) (o : ValueOption) (value : String) : Option Arguments :=
  match o with
  | .platform => if a.platform.isSome then none else some { a with platform := some value }
  | .config =>
    if a.config.isSome || value.isEmpty then none else some { a with config := some value }
  | .verbosity => if a.verbosity.isSome then none else some { a with verbosity := some value }

/-- Turn a switch on, once. Each of the two quoting switches turns the other one off. -/
def Arguments.setSwitch? (a : Arguments) (s : Switch) : Option Arguments :=
  match s with
  | .quote => if a.quote then none else some { a with quote := true, noQuote := false }
  | .noQuote => if a.noQuote then none else some { a with noQuote := true, quote := false }
  | .drop => if a.drop then none else some { a with drop := true }

/-- Take a positional argument: the schema file, once, and with a name. -/
def Arguments.setSchema? (a : Arguments) (value : String) : Option Arguments :=
  if a.schema.isSome || value.isEmpty then none else some { a with schema := some value }

/-- What the quoting switches force, if anything. -/
def Arguments.quoting? (a : Arguments) : Option Bool :=
  if a.quote then some true else if a.noQuote then some false else none

/-- What is asked for. -/
inductive Request where
  | run (a : Arguments) (schema : String)
  | version
  deriving DecidableEq, Repr

/-- The kind of an argument by its looks. -/
inductive Shape where
  /-- Two dashes alone. -/
  | terminator
  /-- A long option, possibly with a value behind an equals sign. -/
  | long (name : String) (value : Option String)
  /-- A dash with letters behind it. -/
  | short (letters : List Char)
  | plain (s : String)
  deriving DecidableEq, Repr

/-- The part before the first equals sign, and the part behind it if there is one. -/
def cutAtEquals (cs : List Char) : List Char × Option (List Char) :=
  match cs.dropWhile (· != '=') with
  | [] => (cs, none)
  | _ :: value => (cs.takeWhile (· != '='), some value)

/-- The looks of an argument. A single dash alone is plain. -/
def Shape.of (s : String) : Shape :=
  match s.toList with
  | ['-', '-'] => .terminator
  | '-' :: '-' :: cs =>
    let (name, value) := cutAtEquals cs
    .long (String.ofList name) (value.map String.ofList)
  | ['-'] => .plain s
  | '-' :: cs => .short cs
  | _ => .plain s

/-- The outcome of one argument: go on with options set, or wait for the value of an option, or
    stop with an answer. -/
inductive Progress where
  | more (a : Arguments)
  | waiting (a : Arguments) (o : ValueOption)
  | answer (r : Request)

/-- Take a long option. A switch has no value, not even an empty one. -/
def Arguments.takeLong? (a : Arguments) (name : String) (value : Option String) :
    Option Progress :=
  match Opt.ofLong? name, value with
  | some (.value o), some v => (a.setValue? o v).map .more
  | some (.value o), none => some (.waiting a o)
  | some (.switch s), none => (a.setSwitch? s).map .more
  | some (.question .version), none => some (.answer .version)
  | _, _ => none

/-- Take a short option. What stands behind its letter is its value; an equals sign between them
    does not belong to the value. -/
def Arguments.takeShort? (a : Arguments) (letters : List Char) : Option Progress :=
  match letters with
  | [] => none
  | letter :: rest =>
    match Opt.ofShort? letter with
    | some (.value o) =>
      match rest with
      | [] => some (.waiting a o)
      | '=' :: value => (a.setValue? o (String.ofList value)).map .more
      | value => (a.setValue? o (String.ofList value)).map .more
    | some (.question .version) => some (.answer .version)
    | _ => none

/-- Take an argument that no option waits for. The terminator is not taken as an argument. -/
def Arguments.take? (a : Arguments) : Shape → Option Progress
  | .terminator => none
  | .long name value => a.takeLong? name value
  | .short letters => a.takeShort? letters
  | .plain value => (a.setSchema? value).map .more

/-- Read the positional arguments behind the terminator. -/
def readPositional? (a : Arguments) : List String → Option Arguments
  | [] => some a
  | s :: rest => do readPositional? (← a.setSchema? s) rest

/-- A run, if there is a schema file. -/
def Request.ofArguments? (a : Arguments) : Option Request := a.schema.map (.run a)

/-- Read arguments, of which the first may be waited for as the value of an option. Such a value
    must not look like an option. -/
def readFrom? (a : Arguments) (waiting : Option ValueOption) : List String → Option Request
  | [] => if waiting.isSome then none else Request.ofArguments? a
  | s :: rest =>
    match waiting, Shape.of s with
    | some o, .plain value => (a.setValue? o value).bind fun a => readFrom? a none rest
    | some _, _ => none
    | none, .terminator => (readPositional? a rest).bind Request.ofArguments?
    | none, shape =>
      match a.take? shape with
      | some (.more a) => readFrom? a none rest
      | some (.waiting a o) => readFrom? a (some o) rest
      | some (.answer r) => some r
      | none => none

/-- The request of a list of arguments. -/
def Request.read? (arguments : List String) : Option Request := readFrom? .empty none arguments

end SchemaDdl.Command
