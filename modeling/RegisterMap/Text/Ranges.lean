/-!
# Ranges of code points

A character class is a list of closed ranges of code points, ascending and apart.
-/

namespace RegisterMap.Text

/-- Closed ranges of code points. -/
abbrev Ranges := List (Nat × Nat)

/-- The code point lies in one of the ranges. -/
def Ranges.has (rs : Ranges) (n : Nat) : Bool :=
  rs.any fun (first, last) => first ≤ n && n ≤ last

end RegisterMap.Text
