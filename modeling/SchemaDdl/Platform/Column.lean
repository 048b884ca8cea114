import SchemaDdl.Document.Scalar
import SchemaDdl.Platform.Basic
import SchemaDdl.Schema.Field

/-!
# Column definitions

A column definition is the column's name, its type, its default, whether it may be null, and what
the platform writes after auto-incremented columns. Parts that are empty are left out together with
the blank in front of them.
-/

namespace SchemaDdl.Platform

/-- Size of a text column that declares none, on platforms that insist on one. -/
def fallbackSize : Nat := 255

/-- The size of a column: its own, its domain's, or the one that the platform insists on. -/
def columnSize? (p : Platform) (f : Field) (d : Domain) : Option Nat :=
  let fallback :=
    if f.type = .varchar && !p.profile.allowsVarcharWithoutSize then some fallbackSize else none
  (f.size.or d.size).or fallback

/-- The scale of a column: its own or its domain's. -/
def columnScale? (p : Platform) (f : Field) (d : Domain) : Option Nat :=
  if p.dialect.takesScale d.sqlType then f.scale.or d.scale else none

/-- A concrete type with its size, where it takes one. -/
def domainText (p : Platform) (f : Field) : String :=
  let d := p.dialect.domain f.type
  if p.dialect.takesSize d.sqlType then
    d.sqlType ++ Field.sizeText (p.columnSize? f d) (p.columnScale? f d)
  else d.sqlType

/-- The type of a column: the one that it names itself, the one for auto-incremented columns, or
    the platform's for its column type. -/
def columnType (p : Platform) (f : Field) : String :=
  match f.sqlType with
  | some sqlType => sqlType
  | none =>
    match if f.autoIncrement then p.dialect.autoIncrementType? f.type else none with
    | some sqlType => sqlType
    | none => p.domainText f

/-- A literal default as it is written. A value of an enumeration is written as its position. -/
def defaultLiteral (p : Platform) (f : Field) (value : String) : String :=
  if f.type.isText then p.literal value
  else
    match f.type with
    | .boolean => p.booleanText (Document.truthOf value)
    | .booleanInt => if Document.truthOf value then "1" else "0"
    | .booleanChar => p.literal value
    | .enum =>
      match f.enumPosition? value with
      | some position => toString position
      | none => p.literal value
    | _ => value

/-- The default clause of a column; empty without default. -/
def defaultClause (p : Platform) (f : Field) : String :=
  match f.default with
  | none => ""
  | some (.expression s) => Text.concat ["DEFAULT ", s]
  | some (.value s) => Text.concat ["DEFAULT ", p.defaultLiteral f s]

/-- The clause that says whether a column may be null. -/
def nullClause (p : Platform) (f : Field) : String :=
  if f.isNotNull then p.profile.notNullText else p.profile.nullText

/-- What is written after an auto-incremented column. -/
def autoIncrementClause (p : Platform) (f : Field) : String :=
  if f.autoIncrement then p.profile.autoIncrementText else ""

/-- The definition of a column. -/
def column (p : Platform) (f : Field) : String :=
  let clauses := [p.defaultClause f, p.nullClause f, p.autoIncrementClause f]
  Text.join " " (p.identifier f.name :: p.columnType f :: clauses.filter (!·.isEmpty))

end SchemaDdl.Platform
