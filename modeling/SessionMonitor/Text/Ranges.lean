/-!
# Sets of characters by ranges of code points
-/

namespace SessionMonitor.Text

def inRanges (ranges : List (Nat × Nat)) (c : Char) : Bool :=
  ranges.any fun range => range.1 ≤ c.toNat && c.toNat ≤ range.2

end SessionMonitor.Text
