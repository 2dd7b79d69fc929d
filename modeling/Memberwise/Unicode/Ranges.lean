/-!
# Ranges of characters

A Unicode property is kept as the list of the inclusive ranges of code points that have it.
-/

namespace Memberwise.Unicode

/-- Inclusive ranges of code points, in increasing order. -/
abbrev Ranges := List (Nat × Nat)

/-- The code point of `c` lies in one of the ranges. -/
def Ranges.contains (ranges : Ranges) (c : Char) : Bool :=
  ranges.any fun (first, last) => first ≤ c.toNat && c.toNat ≤ last

end Memberwise.Unicode
