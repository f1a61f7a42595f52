/-!
# Truncated texts

A text cut to a number of characters, with dots in place of what is lost.
-/

namespace SessionMonitor.Text

/-- At most `limit` characters of `s`, the last three of them dots where `s` is cut and the limit
leaves room for more than dots. -/
def truncateChars (s : List Char) (limit : Nat) : List Char :=
  if s.length ≤ limit then s
  else if limit ≤ 3 then s.take limit
  else s.take (limit - 3) ++ ['.', '.', '.']

def truncate (s : String) (limit : Nat) : String :=
  String.ofList (truncateChars s.toList limit)

end SessionMonitor.Text
