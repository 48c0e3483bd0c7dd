/-!
Sets of characters given by ascending ranges of code points.
-/

namespace DeclSchema.Text

def inRanges (ranges : List (Nat × Nat)) (c : Char) : Bool :=
  ranges.any fun r => r.1 ≤ c.toNat && c.toNat ≤ r.2

end DeclSchema.Text
