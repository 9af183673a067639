import Tidymark.Text

/-!
# Sets of characters as ranges

A set of characters is a list of code point ranges in increasing order, both
ends included.
-/

namespace Tidymark

/-- Ranges of code points, both ends included, in rising order. -/
abbrev CharRanges := List (Nat × Nat)

namespace CharRanges

def has (n : Nat) : CharRanges → Bool
  | [] => false
  | (first, last) :: rest => if n < first then false else n ≤ last || has n rest

end CharRanges

end Tidymark
