/-!
# Ranges of code points

The character classes of the Unicode standard are given as lists of closed intervals.
-/

namespace BeamLint.Text

/-- A class of characters: closed intervals of code points, in increasing order. -/
abbrev Ranges := List (Nat × Nat)

/-- Whether the code point `n` lies in one of the intervals. -/
def Ranges.covers (r : Ranges) (n : Nat) : Bool :=
  r.any fun (low, high) => low ≤ n && n ≤ high

end BeamLint.Text
