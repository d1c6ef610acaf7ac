/-! Sets of code points, written as the places where membership flips. -/

namespace SqlTemplate.Text

/-- A set of code points as its ascending boundaries: outside before the first one, inside from the
first to the second, and so on. -/
structure CodePoints where
  boundaries : List Nat

namespace CodePoints

/-- Whether the number of boundaries at or below a code point is odd. -/
def inside : List Nat → Nat → Bool
  | [], _ => false
  | first :: later, code => if code < first then false else !inside later code

def contains (set : CodePoints) (c : Char) : Bool :=
  inside set.boundaries c.toNat

end CodePoints

end SqlTemplate.Text
