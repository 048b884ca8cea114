/-!
# Powers of two and ten

The two bases of the number formats: limits of word sizes and binary exponents are powers of two,
decimal exponents are powers of ten.
-/

namespace SchemaDdl.Number

/-- A power of two. -/
def twoTo (n : Nat) : Nat := Nat.pow 2 n

/-- A power of ten. -/
def tenTo (n : Nat) : Nat := Nat.pow 10 n

end SchemaDdl.Number
