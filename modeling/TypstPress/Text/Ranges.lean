/-!
# Sets of code points as lists of ranges

The character classes of the library that reach beyond ASCII are tables of ranges, one pair of
code points for each, both ends included.
-/

namespace TypstPress.Text

/-- Ranges of code points, both ends included, in ascending order. -/
abbrev Ranges := List (Nat × Nat)

/-- Whether a code point lies in one of the ranges. -/
def Ranges.contains (ranges : Ranges) (n : Nat) : Bool :=
  ranges.any fun range => range.1 ≤ n && n ≤ range.2

end TypstPress.Text
