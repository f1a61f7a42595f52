import SessionMonitor.Json.Number

/-!
# Tokens of JSON

The bytes of a document, cut into tokens by a scanner that takes one byte at a time. A string or a
number that has the right form but no value is still a token: whether that matters depends on who
reads it.
-/

namespace SessionMonitor.Json

/-- A token. A string is `none` if its bytes are no text, a number if it is out of range. -/
inductive Token where
  | openArray
  | closeArray
  | openObject
  | closeObject
  | comma
  | colon
  | null
  | bool (value : Bool)
  | number (value : Option Number)
  | string (value : Option String)

/-- A part of a string: a byte as it stands, or the code unit of an escape. -/
inductive Piece where
  | byte (value : UInt8)
  | unit (value : Nat)

namespace Piece

def encode (code : Nat) : List UInt8 :=
  String.utf8EncodeChar (Char.ofNat code)

/-- The bytes of a string; a surrogate counts only as part of a pair. -/
def bytes? : List Piece → Option (List UInt8)
  | [] => some []
  | byte b :: rest => (bytes? rest).map (b :: ·)
  | unit u :: rest =>
    if u < 0xD800 ∨ 0xE000 ≤ u then (bytes? rest).map (encode u ++ ·)
    else if 0xDC00 ≤ u then none
    else match rest with
      | unit v :: rest =>
        if 0xDC00 ≤ v ∧ v < 0xE000 then
          (bytes? rest).map (encode (0x10000 + (u - 0xD800) * 0x400 + (v - 0xDC00)) ++ ·)
        else none
      | _ => none

def text? (pieces : List Piece) : Option String := do
  String.fromUTF8? ⟨(← bytes? pieces).toArray⟩

end Piece

/-- Where the scanner stands: between tokens, or inside one, with what it has read of it so far in
reverse. -/
inductive Scan where
  | idle
  | word (seen : List Char)
  | numeral (seen : List Char)
  | string (seen : List Piece)
  | escape (seen : List Piece)
  | unicode (seen : List Piece) (digits value : Nat)

/-- The state of the scanner: the tokens so far in reverse and where it stands. -/
structure Scanner where
  tokens : List Token
  scan : Scan

namespace Scanner

def start : Scanner := ⟨[], .idle⟩

def wordToken? (word : List Char) : Option Token :=
  if word = "null".toList then some .null
  else if word = "true".toList then some (.bool true)
  else if word = "false".toList then some (.bool false)
  else none

def push (s : Scanner) (token : Token) : Scanner :=
  ⟨token :: s.tokens, .idle⟩

def isNumeralChar (c : Char) : Bool :=
  Decimal.isDigit c || c = '-' || c = '+' || c = '.' || c = 'e' || c = 'E'

def begin? (s : Scanner) (c : Char) : Option Scanner :=
  if c = ' ' ∨ c = '\t' ∨ c = '\n' ∨ c = '\r' then some { s with scan := .idle }
  else if c = '[' then some (s.push .openArray)
  else if c = ']' then some (s.push .closeArray)
  else if c = '\x7b' then some (s.push .openObject)
  else if c = '\x7d' then some (s.push .closeObject)
  else if c = ',' then some (s.push .comma)
  else if c = ':' then some (s.push .colon)
  else if c = '"' then some { s with scan := .string [] }
  else if Decimal.isDigit c ∨ c = '-' then some { s with scan := .numeral [c] }
  else if c.isLower then some { s with scan := .word [c] }
  else none

def settle? (s : Scanner) : Option Scanner :=
  match s.scan with
  | .idle => some s
  | .word seen => (wordToken? seen.reverse).map s.push
  | .numeral seen => (Numeral.ofChars? seen.reverse).map fun n => s.push (.number n.value?)
  | _ => none

def hexValue? (c : Char) : Option Nat :=
  if Decimal.isDigit c then some (c.toNat - '0'.toNat)
  else if 'a' ≤ c ∧ c ≤ 'f' then some (c.toNat - 'a'.toNat + 10)
  else if 'A' ≤ c ∧ c ≤ 'F' then some (c.toNat - 'A'.toNat + 10)
  else none

def escapeUnit? (c : Char) : Option Nat :=
  if c = '"' ∨ c = '\\' ∨ c = '/' then some c.toNat
  else if c = 'b' then some 0x08
  else if c = 'f' then some 0x0C
  else if c = 'n' then some 0x0A
  else if c = 'r' then some 0x0D
  else if c = 't' then some 0x09
  else none

def step? (s : Scanner) (b : UInt8) : Option Scanner :=
  let c := Char.ofNat b.toNat
  match s.scan with
  | .idle => s.begin? c
  | .word seen =>
    if c.isLower then some { s with scan := .word (c :: seen) }
    else s.settle?.bind (·.begin? c)
  | .numeral seen =>
    if isNumeralChar c then some { s with scan := .numeral (c :: seen) }
    else s.settle?.bind (·.begin? c)
  | .string seen =>
    if c = '"' then some (s.push (.string (Piece.text? seen.reverse)))
    else if c = '\\' then some { s with scan := .escape seen }
    else if c.toNat < 0x20 then none
    else some { s with scan := .string (.byte b :: seen) }
  | .escape seen =>
    if c = 'u' then some { s with scan := .unicode seen 0 0 }
    else (escapeUnit? c).map fun u => { s with scan := .string (.unit u :: seen) }
  | .unicode seen digits value =>
    (hexValue? c).map fun d =>
      if digits = 3 then { s with scan := .string (.unit (16 * value + d) :: seen) }
      else { s with scan := .unicode seen (digits + 1) (16 * value + d) }

end Scanner

def tokens? (bytes : List UInt8) : Option (List Token) := do
  let s ← bytes.foldlM Scanner.step? Scanner.start
  return (← s.settle?).tokens.reverse

end SessionMonitor.Json
