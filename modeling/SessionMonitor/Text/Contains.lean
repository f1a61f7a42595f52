/-!
# Parts of texts
-/

namespace SessionMonitor.Text

def containsChars (needle : List Char) : List Char → Bool
  | [] => needle.isEmpty
  | c :: rest => needle.isPrefixOf (c :: rest) || containsChars needle rest

def contains (s needle : String) : Bool :=
  containsChars needle.toList s.toList

def beginsWith (s front : String) : Bool :=
  front.toList.isPrefixOf s.toList

end SessionMonitor.Text
