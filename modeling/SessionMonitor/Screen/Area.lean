/-!
# Areas

Rectangles of cells and how the screen is divided into them.
-/

namespace SessionMonitor.Screen

structure Area where
  x : Nat
  y : Nat
  width : Nat
  height : Nat
deriving DecidableEq, Repr

namespace Area

def inner (a : Area) : Area :=
  ⟨min (a.x + 1) (a.x + a.width), min (a.y + 1) (a.y + a.height), a.width - 2, a.height - 2⟩

/-- The rows from `start` to before `stop`, counted from the top. -/
def rows (a : Area) (start stop : Nat) : Area :=
  ⟨a.x, a.y + start, a.width, stop - start⟩

def columns (a : Area) (start stop : Nat) : Area :=
  ⟨a.x + start, a.y, stop - start, a.height⟩

/-- Three parts from top to bottom. The middle one gets at least `least` rows, and what the other
two leave. -/
def stack (a : Area) (upper least lower : Nat) : Area × Area × Area :=
  let spare := a.height - least
  let upper := min upper spare
  let lower := min lower (spare - upper)
  (a.rows 0 upper, a.rows upper (a.height - lower), a.rows (a.height - lower) a.height)

/-- The nearest whole number to `n / d`, halves upwards. -/
def rounded (n d : Nat) : Nat :=
  (2 * n + d) / (2 * d)

def share (a : Area) (first last : Nat) : Area :=
  a.columns (rounded (a.width * first) 100) (rounded (a.width * last) 100)

/-- The middle of an area, in percent of its width and height. -/
def centered (a : Area) (across down : Nat) : Area :=
  let ends (size percent : Nat) : Nat × Nat :=
    (rounded (size * (100 - percent)) 200, rounded (size * (100 + min percent 100)) 200)
  let (left, right) := ends a.width across
  let (top, bottom) := ends a.height down
  (a.columns left right).rows top bottom

def frame (a : Area) : Area × Area × Area :=
  a.stack 3 5 3

end Area

end SessionMonitor.Screen
