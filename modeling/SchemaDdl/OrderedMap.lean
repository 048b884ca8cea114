/-!
# Maps that keep the order of insertion

A map is the list of its entries. Putting a key that is already there replaces the value and keeps
the entry's place; a new key goes to the end. Equality of entries as lists is finer than `sameMap`,
which does not look at the order.
-/

namespace SchemaDdl

/-- A map given by its entries in order of insertion. -/
structure OrderedMap (α β : Type) where
  entries : List (α × β)
  deriving DecidableEq, Repr

namespace OrderedMap

variable {α β : Type} [DecidableEq α]

/-- Put a value under a key in a list of entries. -/
def putEntry (key : α) (value : β) : List (α × β) → List (α × β)
  | [] => [(key, value)]
  | (k, v) :: rest => if k = key then (k, value) :: rest else (k, v) :: putEntry key value rest

/-- No entries. -/
def empty : OrderedMap α β := ⟨[]⟩

/-- Put a value under a key. -/
def put (m : OrderedMap α β) (key : α) (value : β) : OrderedMap α β :=
  ⟨putEntry key value m.entries⟩

/-- The value under a key. -/
def get? (m : OrderedMap α β) (key : α) : Option β := m.entries.lookup key

/-- Whether a key has a value. -/
def has (m : OrderedMap α β) (key : α) : Bool := (m.get? key).isSome

/-- The keys in order of first insertion. -/
def keys (m : OrderedMap α β) : List α := m.entries.map Prod.fst

/-- Put all entries of a list, one after the other. -/
def putAll (m : OrderedMap α β) (entries : List (α × β)) : OrderedMap α β :=
  entries.foldl (fun acc e => acc.put e.1 e.2) m

/-- The map that a list of pairs gives, later pairs winning. -/
def ofList (entries : List (α × β)) : OrderedMap α β := empty.putAll entries

/-- Whether there are no entries. -/
def isEmpty (m : OrderedMap α β) : Bool := m.entries.isEmpty

/-- Whether two maps have the same keys with the same values, in whatever order. -/
def sameMap [DecidableEq β] (m n : OrderedMap α β) : Bool :=
  m.entries.length == n.entries.length && m.entries.all fun e => n.get? e.1 == some e.2

instance : Inhabited (OrderedMap α β) := ⟨empty⟩

end OrderedMap

end SchemaDdl
