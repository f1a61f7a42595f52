import SessionMonitor.Text.Blank

/-!
# Layout of texts

Texts filled up to a width, split into lines, and put on one line.
-/

namespace SessionMonitor.Text

def padRight (s : String) (width : Nat) : String :=
  String.ofList (s.toList ++ List.replicate (width - s.toList.length) ' ')

/-- Splits at each character that satisfies `p`; there is always at least one part. -/
def splitChars (p : Char → Bool) : List Char → List (List Char)
  | [] => [[]]
  | c :: rest =>
    if p c then [] :: splitChars p rest
    else match splitChars p rest with
      | first :: others => (c :: first) :: others
      | [] => [[c]]

def dropLastIf (c : Char) (s : List Char) : List Char :=
  if s.getLast? = some c then s.dropLast else s

/-- The lines of a text. A line may end in a carriage return before its line feed; an empty line
at the end does not count. -/
def lines (s : String) : List String :=
  let parts := splitChars (· = '\n') s.toList
  let ended := parts.dropLast.map (dropLastIf '\r')
  let last := (parts.getLast?.getD [])
  (ended ++ if last.isEmpty then [] else [last]).map String.ofList

/-- The words of a text, with one blank between. -/
def singleLine (s : String) : String :=
  let words := (splitChars isBlank s.toList).filter (!·.isEmpty)
  String.intercalate " " (words.map String.ofList)

def trimEnd (s : String) : String :=
  String.ofList (dropTrailing isBlank s.toList)

end SessionMonitor.Text
