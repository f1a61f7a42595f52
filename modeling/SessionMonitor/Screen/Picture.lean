import SessionMonitor.Screen.Dashboard
import SessionMonitor.Screen.DetailPopup
import SessionMonitor.Screen.ExecutorPage
import SessionMonitor.Screen.SessionTable
import SessionMonitor.Screen.StatusBar

/-!
# The whole screen
-/

namespace SessionMonitor.Screen

def drawPage (g : Grid) (a : Area) (c : Console) : Grid :=
  match c.page with
  | .sessions => SessionTable.draw g a c
  | .dashboard => Dashboard.draw g a c
  | .executor => ExecutorPage.draw g a c.executor

/-- The console on a screen of the given size: header, footer and page, and the popup over the
page. -/
def picture (c : Console) (width height : Nat) : Grid :=
  let g := Grid.blank width height
  let (header, body, footer) := g.area.frame
  let g := StatusBar.drawHeader g header c
  let g := StatusBar.drawFooter g footer c
  let g := drawPage g body c
  match c.detail with
  | some detail => DetailPopup.draw g body detail
  | none => g

def Grid.lines (g : Grid) : List String :=
  (List.range g.height).map fun y =>
    String.join ((g.cells.extract (y * g.width) ((y + 1) * g.width)).toList.map (·.symbol))

/-- Groups equal neighbours: where each group begins, how long it is, and what it is made of. -/
def runs (x : Nat) : List Style → List (Nat × Nat × Style)
  | [] => []
  | s :: rest => match runs (x + 1) rest with
    | (y, length, t) :: more =>
      if s = t then (x, length + 1, t) :: more else (x, 1, s) :: (y, length, t) :: more
    | [] => [(x, 1, s)]

/-- The runs of cells with one style in each row of the screen, without the plain ones. -/
def Grid.styledRuns (g : Grid) : List (List (Nat × Nat × Style)) :=
  (List.range g.height).map fun y =>
    let row := (g.cells.extract (y * g.width) ((y + 1) * g.width)).toList
    (runs 0 (row.map (·.style))).filter (·.2.2 ≠ .plain)

end SessionMonitor.Screen
