/-! # Character classes given by ranges

A class of characters that a standard fixes by enumeration is kept as a list of closed ranges of
code points, in increasing order. Membership is the only question ever put to such a list.
-/

set_option autoImplicit false

namespace ScalaFacade.Text

/-- Whether the code point of `c` lies in one of the closed ranges. -/
def inRanges (ranges : List (Nat × Nat)) (c : Char) : Bool :=
  ranges.any fun range => decide (range.1 ≤ c.toNat) && decide (c.toNat ≤ range.2)

end ScalaFacade.Text
