/-! # Sets of code points

A property of characters is a set of code points, listed as closed ranges in ascending order.  The
tables follow version 17 of the Unicode standard.
-/

namespace Handover.Text

structure CodePoints where
  /-- The first and the last code point of each range. -/
  ranges : Array (Nat × Nat)

def CodePoints.contains (set : CodePoints) (c : Char) : Bool :=
  set.ranges.any fun (first, last) => first ≤ c.toNat ∧ c.toNat ≤ last

end Handover.Text
