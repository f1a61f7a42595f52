import SessionMonitor.Decimal.Layout
import SessionMonitor.Decimal.Reading

/-!
# Numbers of JSON

A number is an integer that fits in a 64-bit word, signed or unsigned, or else a double. A double
is read from the digits that fit in a word, scaled by one power of ten.
-/

namespace SessionMonitor.Json

open Decimal

/-- A number: an integer of at most 64 bits, or a double. -/
inductive Number where
  | integer (value : Int)
  | double (value : Float)
deriving DecidableEq

structure Numeral where
  negative : Bool
  whole : List Char
  /-- The digits after the point, if there is one. -/
  places : Option (List Char)
  exponent : Option Int
deriving DecidableEq

namespace Numeral

def wordSize : Nat := UInt64.size

/-- The exponents that are still counted. -/
def exponentLimit : Int := 2147483647

/-- Splits off the digits before the point; a zero stands alone. -/
def wholePart? (s : List Char) : Option (List Char × List Char) :=
  match spanDigits s with
  | ([], _) => none
  | ('0' :: _ :: _, _) => none
  | parts => some parts

def placesPart? : List Char → Option (Option (List Char) × List Char)
  | '.' :: rest => match spanDigits rest with
    | ([], _) => none
    | (places, rest) => some (some places, rest)
  | s => some (none, s)

def ofChars? (s : List Char) : Option Numeral := do
  let (negative, s) := match s with
    | '-' :: rest => (true, rest)
    | s => (false, s)
  let (whole, s) ← wholePart? s
  let (places, s) ← placesPart? s
  let exponent ← exponent? s
  some ⟨negative, whole, places, if s.isEmpty then none else some exponent⟩

/-- The digits of `s` that fit in a word behind `start`, and the number of digits taken. -/
def fitting (start : Nat) : List Char → Nat × Nat
  | [] => (start, 0)
  | c :: rest =>
    let next := 10 * start + (c.toNat - '0'.toNat)
    if next < wordSize then
      let (value, taken) := fitting next rest
      (value, taken + 1)
    else (start, 0)

/-- Multiplies by a power of ten in one rounding step, or in several by `10 ^ 308` where the power
is below the range of doubles. Overflow gives nothing. -/
def scale? (exponent : Int) (x : Float) : Nat → Option Float
  | 0 => some x
  | fuel + 1 =>
    if exponent.natAbs ≤ 308 then
      let power := Float.ofScientific 1 false exponent.natAbs
      if 0 ≤ exponent then
        let y := x * power
        if y.isInf then none else some y
      else some (x / power)
    else if x == 0.0 then some x
    else if 0 ≤ exponent then none
    else scale? (exponent + 308) (x / Float.ofScientific 1 false 308) fuel

/-- The value as a double, unless it is too large. An exponent that is not counted any more gives
zero, or overflows. -/
def double? (n : Numeral) : Option Float :=
  let (significand, taken) := fitting 0 n.whole
  let dropped : Int := n.whole.length - taken
  let (significand, kept) := fitting significand (n.places.getD [])
  let given := n.exponent.getD 0
  let magnitude :=
    if exponentLimit < given.natAbs then
      if significand ≠ 0 ∧ 0 ≤ given then none else some 0.0
    else
      scale? (dropped - kept + given) (Float.ofNat significand) 4
  magnitude.map fun x => if n.negative then -x else x

def value? (n : Numeral) : Option Number :=
  let magnitude := valueFrom 0 n.whole
  if n.places.isSome ∨ n.exponent.isSome then n.double?.map .double
  else if n.negative then
    if 0 < magnitude ∧ magnitude ≤ Nat.pow 2 63 then some (.integer (-magnitude))
    else n.double?.map .double
  else if magnitude < wordSize then some (.integer magnitude)
  else n.double?.map .double

end Numeral

namespace Number

/-- Numbers from `10 ^ -5` to below `10 ^ 16` are written without an exponent. -/
def style : Decimal.Style := ⟨-5, 15⟩

/-- The text of a number; a double that is not finite has none and is written `null`. -/
def text : Number → String
  | integer value => String.ofList ((if value < 0 then ['-'] else []) ++ digitsOf value.natAbs)
  | double value => match style.write? value with
    | some s => String.ofList s
    | none => "null"

def word? : Number → Option UInt64
  | integer value =>
    if 0 ≤ value ∧ value < UInt64.size then some (UInt64.ofNat value.toNat) else none
  | double _ => none

def toFloat : Number → Float
  | integer value => Float.ofInt value
  | double value => value

end Number

end SessionMonitor.Json
