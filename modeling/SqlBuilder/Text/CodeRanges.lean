/-!
# Sets of characters

A property of characters is kept as the ranges of the code points that have
it. The ranges ascend, so the search for a code point ends at the first range
that begins after it.
-/

namespace SqlBuilder

/-- Ranges of code points, each with its first and its last. -/
abbrev CodeRanges := List (Nat × Nat)

namespace CodeRanges

/-- Whether a code point is in one of the ranges, which ascend. -/
def covers : CodeRanges → Nat → Bool
  | [], _ => false
  | (first, last) :: rest, code => first ≤ code && (code ≤ last || covers rest code)

end CodeRanges

end SqlBuilder
