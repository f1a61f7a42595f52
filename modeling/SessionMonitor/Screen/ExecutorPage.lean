import SessionMonitor.Screen.Grid
import SessionMonitor.Text.Truncate

/-!
# The page of the executor
-/

namespace SessionMonitor.Screen.ExecutorPage

def columnLimit : Nat := 32

def cellText (text : String) : String :=
  Text.truncate text columnLimit

/-- The width of a column: that of its longest text, up to the limit. -/
def columnWidth (rows : List (List String)) (column : String × Nat) : Nat :=
  min columnLimit
    ((column.1 :: rows.filterMap (·[column.2]?)).foldl (fun n s => max n s.toList.length) 0)

def columnWidths (columns : List String) (rows : List (List String)) : List Nat :=
  columns.zipIdx.map (columnWidth rows)

def inputLines (x : Executor) : List Line :=
  [[⟨" Database: ", .label⟩, ⟨x.database?.getD "(default)", .colored .yellow⟩,
      ⟨"  (" ++ toString x.databases.length ++ " available)", .colored .darkGray⟩],
    [⟨" > ", .key⟩, .plain x.query, ⟨"_", .caret⟩]]

def resultTable (columns : List String) (rows : List (List String)) : Table where
  heading := {
    cells := columns.map (.ofText · .plain)
    style := { foreground := some .white, emphasis := { bold := true, underlined := true } } }
  rows := rows.map fun row => { cells := row.map fun text => .ofText (cellText text) .plain }
  widths := columnWidths columns rows
  gap := 2

def drawOutput (g : Grid) (a : Area) : ExecutorOutput → Grid
  | .idle => g.putParagraph a { title := " Result " }
      [.styled " Type a statement and press Enter" .remark]
  | .running => g.putParagraph a { title := " Result " } [.styled " Running..." .remark]
  | .message words => g.putText a { title := " Result " } [.styled (" " ++ words) (.colored .green)]
  | .failed failure => g.putText a { title := " Error ", style := .colored .red }
      [.styled (" " ++ failure.message) (.colored .red)]
  | .rows columns rows =>
    let count := toString rows.length ++ if rows.length = 1 then " row" else " rows"
    g.putTable a { title := " Result (" ++ count ++ ") " } (resultTable columns rows) none

def draw (g : Grid) (a : Area) (x : Executor) : Grid :=
  let (input, output, _) := a.stack 5 3 0
  drawOutput (g.putText input { title := " Query ", style := .colored .cyan } (inputLines x)) output
    x.output

end SessionMonitor.Screen.ExecutorPage
