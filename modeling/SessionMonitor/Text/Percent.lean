/-!
# Percent signs

Texts in which some bytes are written as `%` and two digits.
-/

namespace SessionMonitor.Text

def upperHexDigit (n : Nat) : Char :=
  (Nat.digitChar n).toUpper

def percentByte (b : UInt8) : List Char :=
  ['%', upperHexDigit (b.toNat / 16), upperHexDigit (b.toNat % 16)]

/-- Writes the characters that satisfy `escape` byte by byte. -/
def percentChars (escape : Char → Bool) (s : List Char) : List Char :=
  s.flatMap fun c =>
    if escape c then (String.utf8EncodeChar c).flatMap percentByte else [c]

def isPlainInForm (c : Char) : Bool :=
  c.isAlphanum || c = '*' || c = '-' || c = '.' || c = '_'

/-- A text in a form: a blank becomes a plus sign. -/
def formText (s : String) : String :=
  String.ofList ((percentChars (fun c => !(isPlainInForm c || c = ' ')) s.toList).map fun c =>
    if c = ' ' then '+' else c)

def form (fields : List (String × String)) : String :=
  String.intercalate "&" (fields.map fun (key, value) => formText key ++ "=" ++ formText value)

end SessionMonitor.Text
