/-!
# Sets of characters

A class of characters is data: the ranges of code points that belong to it.
-/

namespace CrudBench.Text

/-- A set of characters: the ranges of code points, both ends included, that it is made of. -/
structure CharSet where
  ranges : List (Nat × Nat)

/-- The character lies in one of the ranges. -/
def CharSet.contains (s : CharSet) (c : Char) : Bool :=
  s.ranges.any fun r => r.1 ≤ c.toNat && c.toNat ≤ r.2

end CrudBench.Text
