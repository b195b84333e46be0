/-!
# Tables of code point ranges

A property of characters is a table of ranges, both ends included. `CharRanges.contains` is
membership of a character's code point in one of them.
-/

namespace Scaffold.Text

/-- Ranges of code points, both ends included. -/
abbrev CharRanges := List (Nat × Nat)

/-- Whether a range of the table holds the character. -/
def CharRanges.contains (ranges : CharRanges) (c : Char) : Bool :=
  ranges.any fun (lo, hi) => lo ≤ c.toNat && c.toNat ≤ hi

end Scaffold.Text
