import SessionMonitor.Text.Blank

/-!
# Reading numbers

The grammars of whole numbers and of decimals in texts, and the double nearest to a decimal.
-/

namespace SessionMonitor.Decimal

/-- The number `± digits * 10 ^ exponent`, as it was written. -/
structure Literal where
  negative : Bool
  digits : Nat
  exponent : Int
deriving DecidableEq, Repr

def digitValue? (c : Char) : Option Nat :=
  if '0' ≤ c ∧ c ≤ '9' then some (c.toNat - '0'.toNat) else none

def isDigit (c : Char) : Bool :=
  '0' ≤ c && c ≤ '9'

/-- The number that the digits `s` write in base ten, after the digits of `value`. -/
def valueFrom (value : Nat) (s : List Char) : Nat :=
  s.foldl (fun n c => 10 * n + (c.toNat - '0'.toNat)) value

def natural? (s : List Char) : Option Nat :=
  if s ≠ [] ∧ s.all isDigit then some (valueFrom 0 s) else none

/-- The number in digits after an optional plus sign, below `2 ^ 64`. -/
def word? (s : List Char) : Option UInt64 := do
  let n ← natural? (match s with | '+' :: rest => rest | _ => s)
  if n < UInt64.size then some (UInt64.ofNat n) else none

def trimmedWord? (s : String) : Option UInt64 :=
  word? (Text.trimChars s.toList)

namespace Literal

/-- The double nearest to a literal, ties to even; infinity beyond the greatest double. A power of
ten that leaves no doubt is not computed. -/
def toFloat (l : Literal) : Float :=
  let size : Int := l.digits.log2 * 30103 / 100000 + l.exponent
  let magnitude : Float :=
    if l.digits = 0 then 0.0
    else if 320 < size then 1.0 / 0.0
    else if size < -400 then 0.0
    else Float.ofScientific l.digits (l.exponent < 0) l.exponent.natAbs
  if l.negative then -magnitude else magnitude

end Literal

def spanDigits (s : List Char) : List Char × List Char :=
  s.span isDigit

def splitSign : List Char → Bool × List Char
  | '-' :: rest => (true, rest)
  | '+' :: rest => (false, rest)
  | s => (false, s)

/-- The number after an exponent mark, or zero where no mark stands. -/
def exponent? : List Char → Option Int
  | [] => some 0
  | c :: rest =>
    if c = 'e' ∨ c = 'E' then
      let (negative, digits) := splitSign rest
      (natural? digits).map fun n => if negative then -(n : Int) else n
    else none

/-- Digits with an optional point and an optional exponent; one digit must stand on a side of the
point. -/
def magnitude? (negative : Bool) (s : List Char) : Option Literal :=
  let (whole, rest) := spanDigits s
  let (places, rest) := match rest with
    | '.' :: rest => spanDigits rest
    | _ => ([], rest)
  if whole.isEmpty && places.isEmpty then none
  else (exponent? rest).map fun e =>
    ⟨negative, valueFrom (valueFrom 0 whole) places, e - places.length⟩

/-- Whether `s` spells `word`, in letters of either case. -/
def spells (word : String) (s : List Char) : Bool :=
  s.map Char.toLower == word.toList

/-- The double that a text writes: a decimal, or infinity or not-a-number by name. -/
def double? (s : List Char) : Option Float :=
  let (negative, rest) := splitSign s
  if spells "inf" rest || spells "infinity" rest then
    some (if negative then -(1.0 / 0.0) else 1.0 / 0.0)
  else if spells "nan" rest then some (0.0 / 0.0)
  else (magnitude? negative rest).map Literal.toFloat

end SessionMonitor.Decimal
