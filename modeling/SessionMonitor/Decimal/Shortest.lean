import SessionMonitor.Decimal.Dyadic

/-!
# Shortest decimals

The decimal with the fewest digits that reads back as a given double; of those with as few, the
nearest; of two equally near, the one whose last digit is even.
-/

namespace SessionMonitor.Decimal

/-- The positive number `digits * 10 ^ exponent`. -/
structure Scaled where
  digits : Nat
  exponent : Int
deriving DecidableEq, Repr

namespace Scaled

/-- The same number with as few digits as possible, for a number of at most `fuel` digits. -/
def stripZeros : Nat → Scaled → Scaled
  | 0, s => s
  | fuel + 1, s =>
    if s.digits ≠ 0 ∧ s.digits % 10 = 0 then stripZeros fuel ⟨s.digits / 10, s.exponent + 1⟩ else s

end Scaled

/-- The reals that round to a double, in quarters of the unit of its last place: from `low` to
`high` around `middle`, with the ends if `closed`. -/
structure Interval where
  low : Nat
  middle : Nat
  high : Nat
  closed : Bool

/-- The interval of a positive double. Below a power of two the gap is half as wide, except under
the least normal double. -/
def Dyadic.interval (d : Dyadic) : Interval where
  low := if d.significand = Nat.pow 2 Dyadic.fractionBits ∧ Dyadic.leastExponent < d.exponent then
    4 * d.significand - 1 else 4 * d.significand - 2
  middle := 4 * d.significand
  high := 4 * d.significand + 2
  closed := d.significand % 2 = 0

/-- The greatest `e` with `10 ^ e ≤ num / den`, for positive `num` and `den`, up to one that
comes from the number of bits. -/
def leadingExponent (num den : Nat) : Int :=
  let bits : Int := num.log2 - den.log2
  let guess := (bits * 30103).fdiv 100000
  let reaches (e : Int) : Bool := Nat.pow 10 e.toNat * den ≤ num * Nat.pow 10 (-e).toNat
  if reaches (guess + 1) then guess + 1
  else if reaches guess then guess
  else if reaches (guess - 1) then guess - 1
  else guess - 2

/-- The points of the grid of multiples of `unit` next to `middle` in the interval, as multiples of
`unit`; the nearer one if both do. -/
def pointOnGrid (low middle high : Nat) (closed : Bool) (unit : Nat) : Option Nat :=
  let below := middle / unit
  let above := below + 1
  let inside (k : Nat) : Bool :=
    if closed then low ≤ k * unit && k * unit ≤ high else low < k * unit && k * unit < high
  match inside below && below != 0, inside above with
  | true, true => some (roundDiv middle unit .toEven)
  | true, false => some below
  | false, true => some above
  | false, false => none

/-- The shortest decimal of a positive number, from `count` digits on with `fuel` lengths to try. -/
def shortestFrom (d : Dyadic) (leading : Int) : Nat → Nat → Option Scaled
  | 0, _ => none
  | fuel + 1, count =>
    let i := d.interval
    let power := leading - (count : Int) + 1
    let scale := Nat.pow 2 (d.exponent - 2).toNat * Nat.pow 10 (-power).toNat
    let unit := Nat.pow 2 (2 - d.exponent).toNat * Nat.pow 10 power.toNat
    match pointOnGrid (i.low * scale) (i.middle * scale) (i.high * scale) i.closed unit with
    | some digits => some ⟨digits, power⟩
    | none => shortestFrom d leading fuel (count + 1)

/-- The shortest decimal of a positive finite double: 17 digits are always enough. -/
def shortest (d : Dyadic) : Scaled :=
  let leading := leadingExponent d.ratio.1 d.ratio.2
  match shortestFrom d leading 17 1 with
  | some s => s.stripZeros 17
  | none => ⟨d.significand, d.exponent⟩

end SessionMonitor.Decimal
