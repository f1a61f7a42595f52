import SessionMonitor.Decimal.Shortest

/-!
# Decimals as text

How a double is written: exactly to a fixed number of places, or by its shortest decimal in
positional or exponent form.
-/

namespace SessionMonitor.Decimal

def digitsOf (n : Nat) : List Char :=
  Nat.toDigits 10 n

/-- The choices of a style for shortest decimals: the least and greatest leading exponent that
are written positionally. -/
structure Style where
  leastPositional : Int
  greatestPositional : Int

/-- Digits with a point after the first `1 + leading` of them. -/
def positional (digits : List Char) (leading : Int) : List Char :=
  if leading < 0 then
    ['0', '.'] ++ List.replicate (-leading - 1).toNat '0' ++ digits
  else
    let whole := (leading + 1).toNat
    let front := digits.take whole ++ List.replicate (whole - digits.length) '0'
    let back := digits.drop whole
    front ++ ['.'] ++ (if back.isEmpty then ['0'] else back)

/-- Digits with a point after the first and a signed power of ten. -/
def exponential (digits : List Char) (leading : Int) : List Char :=
  let back := digits.drop 1
  digits.take 1 ++ (if back.isEmpty then [] else '.' :: back) ++ ['e']
    ++ (if leading < 0 then ['-'] else ['+']) ++ digitsOf leading.natAbs

/-- The text of a finite double by its shortest decimal; `none` for the others. -/
def Style.write? (style : Style) (x : Float) : Option (List Char) :=
  (Dyadic.ofFloat? x).map fun d =>
    let sign := if d.negative then ['-'] else []
    if d.significand = 0 then sign ++ ['0', '.', '0']
    else
      let s := shortest d
      let digits := digitsOf s.digits
      let leading := s.exponent + digits.length - 1
      sign ++
        (if style.leastPositional ≤ leading ∧ leading ≤ style.greatestPositional then
          positional digits leading
        else exponential digits leading)

/-- The text of a double with one place, rounded exactly, ties to even. -/
def onePlace (x : Float) : String :=
  match Dyadic.ofFloat? x with
  | some d =>
    let tenths := roundDiv (d.ratio.1 * 10) d.ratio.2 .toEven
    String.ofList ((if d.negative then ['-'] else []) ++ digitsOf (tenths / 10) ++ ['.']
      ++ digitsOf (tenths % 10))
  | none =>
    if x.isNaN then "NaN" else if x < 0 then "-inf" else "inf"

end SessionMonitor.Decimal
