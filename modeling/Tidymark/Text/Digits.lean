import Tidymark.Text

/-!
# Numbers from digits

The value of a run of digits in a base up to sixteen.
-/

namespace Tidymark

namespace Text

/-- The value of a digit, letters counting on from ten. -/
def digit? (base : Nat) (c : Char) : Option Nat :=
  let n :=
    if c.isDigit then c.toNat - 48
    else if 'a' ≤ c ∧ c ≤ 'f' then c.toNat - 87
    else if 'A' ≤ c ∧ c ≤ 'F' then c.toNat - 55
    else base
  if n < base then some n else none

def digitsFrom? (base n : Nat) : Text → Option Nat
  | [] => some n
  | c :: s => (digit? base c).bind fun d => digitsFrom? base (n * base + d) s

/-- The number that digits stand for.  It takes at least one, and nothing else. -/
def ofDigits? (base : Nat) : Text → Option Nat
  | [] => none
  | c :: s => digitsFrom? base 0 (c :: s)

end Text

end Tidymark
