/-!
# `ClassifierBridge.Text.Ranges`: character classes as tables

A class of characters that no formula describes is a table of ranges of code
points, both ends included, in increasing order.
-/

set_option autoImplicit false

namespace ClassifierBridge.Text

/-- Whether a table holds a character. -/
def inRanges (ranges : List (Nat × Nat)) (c : Char) : Bool :=
  ranges.any fun (first, last) => first ≤ c.toNat && c.toNat ≤ last

end ClassifierBridge.Text
