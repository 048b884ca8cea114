import SchemaDdl.OrderedMap
import SchemaDdl.Text.Case

/-!
# Vendor blocks

Parameters that concern one kind of database only. Blocks are keyed by the kind in lower case;
adding a block for a kind that is already there merges the parameters, later values winning.
-/

namespace SchemaDdl

/-- Parameters for one kind of database, in order of declaration. -/
structure VendorBlock where
  kind : String
  parameters : OrderedMap String String
  deriving DecidableEq, Repr

namespace VendorBlock

/-- A block without parameters. The kind is kept in lower case. -/
def ofKind (kind : String) : VendorBlock := ⟨Text.lower kind, .empty⟩

/-- Set one parameter. -/
def set (block : VendorBlock) (name value : String) : VendorBlock :=
  { block with parameters := block.parameters.put name value }

/-- Whether the block has no parameters. -/
def isEmpty (block : VendorBlock) : Bool := block.parameters.isEmpty

/-- The value of the first parameter whose name is the given one in whatever ASCII case. -/
def option? (block : VendorBlock) (name : String) : Option String :=
  (block.parameters.entries.find? fun p => Text.sameIgnoringAsciiCase p.1 name).map Prod.snd

end VendorBlock

/-- The vendor blocks of one schema object, one per kind. -/
structure VendorBlocks where
  byKind : OrderedMap String VendorBlock
  deriving DecidableEq, Repr

namespace VendorBlocks

/-- No blocks. -/
def empty : VendorBlocks := ⟨.empty⟩

/-- Add a block, or merge it into the one of the same kind. -/
def add (blocks : VendorBlocks) (block : VendorBlock) : VendorBlocks :=
  match blocks.byKind.get? block.kind with
  | none => ⟨blocks.byKind.put block.kind block⟩
  | some old =>
    let merged := { old with parameters := old.parameters.putAll block.parameters.entries }
    ⟨blocks.byKind.put block.kind merged⟩

/-- The block of a kind, in whatever case; an empty one if there is none. -/
def forKind (blocks : VendorBlocks) (kind : String) : VendorBlock :=
  (blocks.byKind.get? (Text.lower kind)).getD (VendorBlock.ofKind kind)

/-- All blocks in order of first declaration. -/
def toList (blocks : VendorBlocks) : List VendorBlock := blocks.byKind.entries.map Prod.snd

/-- Whether there are no blocks. -/
def isEmpty (blocks : VendorBlocks) : Bool := blocks.byKind.isEmpty

end VendorBlocks

end SchemaDdl
