/-! # Classes of characters

A class of characters is given by the code points at which membership changes, in increasing order:
the characters before the first are outside, those from the first up to the second inside, and so
on. -/

namespace BlockCalc

/-- The code points at which membership in a class changes. -/
structure CharClass where
  changes : List Nat

namespace CharClass

/-- Membership: an odd number of changes lie at or before the character. -/
def contains (k : CharClass) (c : Char) : Bool :=
  (k.changes.takeWhile (· ≤ c.toNat)).length % 2 == 1

end CharClass

end BlockCalc
