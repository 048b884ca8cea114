import SchemaDdl.Text.Pieces

/-!
# Errors and their context

An error is a chain of notes: the note on top was added last, the last note is the root cause. Its
text is the notes' texts joined by colons, latest context first.

* **`Error.context`**: put another error in front as context. A fresh one-note error becomes the new
  top; one that is shared, or has a cause already, is first flattened to its text, so that no note
  of the error it explains is lost.
* **`Error.build?`**, **`Error.path?`**: the first build failure and the first document path.
* **`Error.source?`**: what the note on top wraps.
-/

namespace SchemaDdl

/-- A step in a document: to a member, or to an item. -/
inductive PathStep where
  | key (name : String)
  | item (position : Nat)
  deriving DecidableEq, Repr

/-- A place in a document: the text of the root and the steps from there. -/
structure DocumentPath where
  root : String
  steps : List PathStep
  deriving DecidableEq, Repr

/-- The text of a step. -/
def PathStep.text : PathStep → String
  | key name => Text.concat [".", name]
  | item position => Text.concat ["[", toString position, "]"]

namespace DocumentPath

/-- The root of a document. -/
def document : DocumentPath := ⟨"$", []⟩

/-- A place given by its text. -/
def ofText (s : String) : DocumentPath := ⟨s, []⟩

/-- The member of a place. -/
def key (p : DocumentPath) (name : String) : DocumentPath :=
  { p with steps := p.steps ++ [.key name] }

/-- The item of a place. -/
def item (p : DocumentPath) (i : Nat) : DocumentPath :=
  { p with steps := p.steps ++ [.item i] }

/-- The text of a place. -/
def text (p : DocumentPath) : String :=
  p.steps.foldl (fun s step => s ++ step.text) p.root

end DocumentPath

/-- Which step of building a relation failed. -/
inductive BuildStep where
  | localField (field : String)
  | foreignField (field : String)
  | foreignRelation (relation path : String)
  | missingTarget
  | noReferences
  deriving DecidableEq, Repr

/-- A failure to build a relation, with the names that let a reader find it. -/
structure BuildFailure where
  step : BuildStep
  relation : String
  entity : String
  target : String
  deriving DecidableEq, Repr

namespace BuildFailure

/-- The field that was not found, with its whole path where it has one. -/
def field? (b : BuildFailure) : Option String :=
  match b.step with
  | .localField field => some field
  | .foreignField field => some field
  | .foreignRelation _ path => some path
  | .missingTarget => none
  | .noReferences => none

/-- The wording of a build failure. -/
def message (b : BuildFailure) : String :=
  let relation := b.relation
  let entity := b.entity
  let target := b.target
  match b.step with
  | .localField field =>
    Text.concat ["field `", field, "` in local reference of relation `", relation, "` from `",
      entity, "` to `", target, "` not found"]
  | .foreignField field =>
    Text.concat ["field `", field, "` in foreign reference of relation `", relation, "` from `",
      entity, "` to `", target, "` not found"]
  | .foreignRelation chained path =>
    Text.concat ["relation `", chained, "` for foreign reference `", path, "` of relation `",
      relation, "` from `", entity, "` to `", target, "` not found"]
  | .missingTarget =>
    Text.concat ["target entity `", target, "` of relation `", relation, "` from `", entity,
      "` not found"]
  | .noReferences =>
    Text.concat ["relation `", relation, "` from `", entity, "` to `", target,
      "` has no references"]

end BuildFailure

/-- One note of an error. -/
inductive Note where
  | build (b : BuildFailure)
  | ingestion (path : DocumentPath) (message : String)
  | invalidSchema (message : String)
  | unsupportedFeature (message : String)
  | adhoc (message : String)
  /-- What a foreign part of the system reported. -/
  | external (message : String)
  deriving DecidableEq, Repr

/-- The text of a note. -/
def Note.text : Note → String
  | build b => b.message
  | ingestion path message =>
    Text.concat ["invalid schema document at `", path.text, "`: ", message]
  | invalidSchema message => Text.concat ["invalid schema: ", message]
  | unsupportedFeature message => Text.concat ["unsupported feature: ", message]
  | adhoc message => message
  | external message => message

/-- An error: the note on top and the notes that it explains, latest first. -/
structure Error where
  top : Note
  causes : List Note
  deriving DecidableEq, Repr

namespace Error

/-- An error of one note. -/
def ofNote (n : Note) : Error := ⟨n, []⟩

/-- An error about a document. -/
def ingestion (path : DocumentPath) (message : String) : Error := ofNote (.ingestion path message)

/-- An error about a schema. -/
def invalidSchema (message : String) : Error := ofNote (.invalidSchema message)

/-- An error about a platform. -/
def unsupportedFeature (message : String) : Error := ofNote (.unsupportedFeature message)

/-- An error with a text of its own. -/
def adhoc (message : String) : Error := ofNote (.adhoc message)

/-- All notes, latest first. -/
def notes (e : Error) : List Note := e.top :: e.causes

/-- The text of an error. -/
def text (e : Error) : String := Text.join ": " (e.notes.map Note.text)

/-- Put `context` in front of an error. `shared` says that the context is also in use elsewhere and
    must not be changed. -/
def context (e : Error) (context : Error) (shared : Bool) : Error :=
  if shared || !context.causes.isEmpty then ⟨.adhoc context.text, e.notes⟩
  else ⟨context.top, e.notes⟩

/-- Put a fresh note in front of an error. -/
def because (e : Error) (note : Note) : Error := e.context (ofNote note) false

/-- The first build failure among the notes. -/
def build? (e : Error) : Option BuildFailure :=
  e.notes.findSome? fun
    | .build b => some b
    | _ => none

/-- The first document path among the notes. -/
def path? (e : Error) : Option DocumentPath :=
  e.notes.findSome? fun
    | .ingestion path _ => some path
    | _ => none

/-- Whether some note is a build failure. -/
def isBuild (e : Error) : Bool := e.build?.isSome

/-- Whether some note is about a document. -/
def isIngestion (e : Error) : Bool := e.path?.isSome

/-- Whether some note is about a schema. -/
def isInvalidSchema (e : Error) : Bool :=
  e.notes.any fun
    | .invalidSchema _ => true
    | _ => false

/-- Whether some note is about a platform. -/
def isUnsupportedFeature (e : Error) : Bool :=
  e.notes.any fun
    | .unsupportedFeature _ => true
    | _ => false

/-- What the note on top wraps: a build failure or a report from outside. -/
def source? (e : Error) : Option String :=
  match e.top with
  | .build b => some b.message
  | .external message => some message
  | _ => none

end Error

/-- A look-up that has no answer because the id is not one of the database. -/
inductive Missing where
  | entity
  | relation
  | index
  deriving DecidableEq, Repr

/-- The wording of a look-up without answer. -/
def Missing.message : Missing → String
  | entity => "invalid entity ID"
  | relation => "invalid relation ID"
  | index => "invalid index position"

/-- Why an operation did not go through: an error it reports, or an id that leads nowhere. -/
inductive Failure where
  | error (e : Error)
  | missing (m : Missing)
  deriving DecidableEq, Repr

end SchemaDdl
