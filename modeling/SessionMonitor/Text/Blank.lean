import SessionMonitor.Text.Ranges

/-!
# Blanks

White space as Unicode defines it, and texts without blanks at their ends.
-/

namespace SessionMonitor.Text

/-- The 25 code points with the property White_Space. -/
def blankRanges : List (Nat × Nat) := [
  (0x0009, 0x000D), (0x0020, 0x0020), (0x0085, 0x0085), (0x00A0, 0x00A0), (0x1680, 0x1680),
  (0x2000, 0x200A), (0x2028, 0x2029), (0x202F, 0x202F), (0x205F, 0x205F), (0x3000, 0x3000)]

def isBlank (c : Char) : Bool :=
  inRanges blankRanges c

/-- The characters before the trailing run of those that satisfy `p`. -/
def dropTrailing (p : Char → Bool) (s : List Char) : List Char :=
  (s.reverse.dropWhile p).reverse

def trimChars (s : List Char) : List Char :=
  dropTrailing isBlank (s.dropWhile isBlank)

def trim (s : String) : String :=
  String.ofList (trimChars s.toList)

def hasInk (s : String) : Bool :=
  s.toList.any fun c => !isBlank c

end SessionMonitor.Text
