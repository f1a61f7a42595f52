import SessionMonitor.Text.Layout
import SessionMonitor.Text.Truncate

/-!
# Texts in columns

A truncated text has as many characters as there is room for, and a text that fits is not touched.
A column that is as wide as its longest text, up to a limit, has room for every text that keeps to
the limit.
-/

namespace SessionMonitor.Text

variable {s : String} {limit : Nat}

theorem truncate_of_le (fits : s.length ≤ limit) : truncate s limit = s := by
  rw [truncate, truncateChars, if_pos (by rwa [String.length_toList]), String.ofList_toList]

theorem toList_truncate_of_lt (long : limit < s.length) (room : 3 < limit) :
    (truncate s limit).toList = s.toList.take (limit - 3) ++ ['.', '.', '.'] := by
  rw [truncate, String.toList_ofList, truncateChars,
    if_neg (by rw [String.length_toList]; omega), if_neg (by omega)]

theorem length_truncate (s : String) (limit : Nat) :
    (truncate s limit).length = min s.length limit := by
  rw [truncate, String.length_ofList, truncateChars, ← String.length_toList]
  split
  · omega
  · split
    · rw [List.length_take]
      omega
    · rw [List.length_append, List.length_take, List.length_cons, List.length_cons,
        List.length_cons, List.length_nil]
      omega

/-! ### The width of a column -/

/-- The number of characters of the longest text. -/
def longest (texts : List String) : Nat :=
  (texts.map String.length).max?.getD 0

theorem foldl_longest (texts : List String) :
    texts.foldl (fun n text => max n text.toList.length) 0 = longest texts := by
  rw [longest, ← Nat.zero_max ((texts.map String.length).max?.getD 0), ← List.foldl_max,
    List.foldl_map]
  simp only [String.length_toList]

theorem le_longest {texts : List String} (member : s ∈ texts) : s.length ≤ longest texts :=
  List.le_max?_getD_of_mem (List.mem_map_of_mem member)

/-- In a column as wide as the longest text, up to a limit, only the limit can cut a text. -/
theorem le_width_or {texts : List String} (member : s ∈ texts) (limit : Nat) :
    s.length ≤ min limit (longest texts) ∨ min limit (longest texts) = limit := by
  have long := le_longest member
  omega

end SessionMonitor.Text
