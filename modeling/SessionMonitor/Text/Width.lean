import SessionMonitor.Text.WidthData

/-!
# Display width

How many cells of a terminal a character takes.
-/

namespace SessionMonitor.Text

/-- The cells that one character takes by itself: none, one or two. -/
def charWidth (c : Char) : Nat :=
  if c.toNat < 0x7F then 1
  else if inRanges zeroWidthRanges c then 0
  else if inRanges wideRanges c then 2
  else 1

end SessionMonitor.Text
