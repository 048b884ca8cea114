import SchemaDdl.Text.Pieces

/-!
# Files by path

The command names what it reads by a path. A path is names with slashes between them, and each name
leads from one place to the next: an empty name and a dot stay, two dots go up, any other name goes
down. A name leads on from directories only, also where it stays, so that a slash behind the name of
a file is a mistake.

* **`FileTree`**: files with their texts, and the directory that relative paths start from.
* **`FileTree.ofFiles`**: files in a working directory of their own.
* **`FileTree.read`**: the text that a path leads to, or the reason why there is none.
-/

namespace SchemaDdl.Command

/-- Why a path gives no text. -/
inductive Unreadable where
  | notFound
  | notADirectory
  | isADirectory
  | nameTooLong
  | accessDenied
  | notText
  deriving DecidableEq, Repr

/-- The wording of a reason. -/
def Unreadable.message : Unreadable → String
  | notFound => "No such file or directory (os error 2)"
  | notADirectory => "Not a directory (os error 20)"
  | isADirectory => "Is a directory (os error 21)"
  | nameTooLong => "File name too long (os error 36)"
  | accessDenied => "Permission denied (os error 13)"
  | notText => "stream did not contain valid UTF-8"

/-- Most bytes of a name in a path. -/
def longestName : Nat := 255

/-- Most bytes of a path. -/
def longestPath : Nat := 4095

/-- A place in a tree: the names on the way to it from the root. -/
abbrev Place := List String

/-- Where a name leads from a place. The root is above itself. -/
def Place.next (place : Place) (name : String) : Place :=
  if name = "" ∨ name = "." then place
  else if name = ".." then place.dropLast
  else place ++ [name]

/-- The names in a path. A slash in front or behind makes an empty name there. -/
def pathNames (path : String) : List String := Text.split "/" path

/-- Files by their places. The directories are the places on the way to the files and to the
    working directory. -/
structure FileTree where
  workingDirectory : Place
  files : List (Place × String)
  deriving DecidableEq, Repr

/-- Files named from a working directory that holds nothing else. All that is known around it is the
    null device, which reads as an empty file. -/
def FileTree.ofFiles (files : List (String × String)) : FileTree :=
  let home := ["tmp", "work"]
  ⟨home, (["dev", "null"], "") :: files.map fun f => ((pathNames f.1).foldl Place.next home, f.2)⟩

/-- The text of the file at a place. -/
def FileTree.file? (t : FileTree) (place : Place) : Option String := t.files.lookup place

/-- Whether there is a directory at a place. -/
def FileTree.hasDirectory (t : FileTree) (place : Place) : Bool :=
  place.isPrefixOf t.workingDirectory || t.files.any (place.isPrefixOf ·.1.dropLast)

/-- Follow names from a place. The first name that leads nowhere gives the reason. -/
def FileTree.follow (t : FileTree) (place : Place) : List String → Except Unreadable Place
  | [] => .ok place
  | name :: names =>
    if !t.hasDirectory place then
      .error (if (t.file? place).isSome then .notADirectory else .notFound)
    else if longestName < name.utf8ByteSize then .error .nameTooLong
    else t.follow (Place.next place name) names

/-- Where a path starts: at the root if there is a slash in front. -/
def FileTree.start (t : FileTree) (path : String) : Place :=
  if path.toList.head? = some '/' then [] else t.workingDirectory

/-- The text at a place. -/
def FileTree.textAt (t : FileTree) (place : Place) : Except Unreadable String :=
  match t.file? place with
  | some text => .ok text
  | none => .error (if t.hasDirectory place then .isADirectory else .notFound)

/-- The text that a path leads to. The empty path leads nowhere. -/
def FileTree.read (t : FileTree) (path : String) : Except Unreadable String :=
  if path.isEmpty then .error .notFound
  else if longestPath < path.utf8ByteSize then .error .nameTooLong
  else (t.follow (t.start path) (pathNames path)).bind t.textAt

end SchemaDdl.Command
