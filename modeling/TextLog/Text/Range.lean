/-!
# Ranges of Characters

Tables that give a class of characters by the first and last code point of each
run.

## Main definitions

* `inRanges`: A code point lies in one of the ranges.
-/

namespace TextLog

namespace Text

/-- A code point lies in one of the ranges. -/
def inRanges (ranges : List (Nat × Nat)) (n : Nat) : Bool :=
  ranges.any fun r => r.1 ≤ n && n ≤ r.2

end Text

end TextLog
