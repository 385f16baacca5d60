/-!
# Sets of characters as code point ranges

A property of characters is kept as closed ranges of code points, ascending and apart. Membership
stops at the first range that starts above the character, so common characters are found early.
-/

namespace RecordQuery.Text

/-- Closed ranges of code points, ascending and apart. -/
abbrev CodeRanges := List (Nat × Nat)

namespace CodeRanges

/-- Does one of the ranges hold the code point? -/
def contains (code : Nat) : CodeRanges → Bool
  | [] => false
  | (first, last) :: rest =>
    if code < first then false
    else if code ≤ last then true
    else contains code rest

/-- Each range is in order and ends before the next one starts. -/
def wellFormed : CodeRanges → Bool
  | [] => true
  | [(first, last)] => first ≤ last
  | (first, last) :: (next, bound) :: rest =>
    first ≤ last && last < next && wellFormed ((next, bound) :: rest)

end CodeRanges

end RecordQuery.Text
