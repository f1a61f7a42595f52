/-!
# Doubles as integers times powers of two
-/

namespace SessionMonitor.Decimal

/-- The number `± significand * 2 ^ exponent`. -/
structure Dyadic where
  negative : Bool
  significand : Nat
  exponent : Int
deriving DecidableEq, Repr

namespace Dyadic

def fractionBits : Nat := 52

/-- The power of two of the least bit of a subnormal double. -/
def leastExponent : Int := -1074

/-- The number that a double with these bits stands for, if it is finite. -/
def ofBits? (bits : UInt64) : Option Dyadic :=
  let word : Nat := bits.toNat
  let negative := decide (Nat.pow 2 63 ≤ word)
  let exponent : Nat := word / Nat.pow 2 fractionBits % Nat.pow 2 11
  let fraction : Nat := word % Nat.pow 2 fractionBits
  if exponent = Nat.pow 2 11 - 1 then none
  else if exponent = 0 then some ⟨negative, fraction, leastExponent⟩
  else some ⟨negative, Nat.pow 2 fractionBits + fraction, leastExponent + exponent - 1⟩

def ofFloat? (x : Float) : Option Dyadic :=
  ofBits? x.toBits

def ratio (d : Dyadic) : Nat × Nat :=
  (d.significand * Nat.pow 2 d.exponent.toNat, Nat.pow 2 (-d.exponent).toNat)

end Dyadic

/-- Which way a quotient goes that lies midway between two integers. -/
inductive Tie where
  | toEven
  | up
deriving DecidableEq, Repr

def roundDiv (num den : Nat) (tie : Tie) : Nat :=
  let below := num / den
  let twice := 2 * (num % den)
  if twice < den then below
  else if den < twice then below + 1
  else match tie with
    | .up => below + 1
    | .toEven => below + below % 2

end SessionMonitor.Decimal
