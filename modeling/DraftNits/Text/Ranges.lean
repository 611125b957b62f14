/-! # Sets of code points as sorted ranges

A character class is written as a list of closed code-point ranges in increasing order, so that a
search can stop at the first range that starts beyond the character. -/

namespace DraftNits.Text

/-- Closed ranges of code points, in increasing order. -/
abbrev Ranges := List (Nat × Nat)

namespace Ranges

/-- Whether a code point lies in one of the ranges; the search ends at the first range that
starts beyond it. -/
def contains : Ranges → Nat → Bool
  | [], _ => false
  | (first, last) :: rest, code =>
    if code < first then false
    else if code ≤ last then true
    else contains rest code

end Ranges

end DraftNits.Text
