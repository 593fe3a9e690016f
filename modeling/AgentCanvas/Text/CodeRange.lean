/-!
# Classes of characters given by ranges

A class of characters is a list of ranges of code points, both ends included.
-/

namespace AgentCanvas.Text

/-- Whether a character lies in one of the ranges. -/
def inRanges (ranges : List (Nat × Nat)) (c : Char) : Bool :=
  ranges.any fun range => range.1 ≤ c.toNat && c.toNat ≤ range.2

end AgentCanvas.Text
