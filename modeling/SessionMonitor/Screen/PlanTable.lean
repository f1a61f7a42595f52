import SessionMonitor.Json.Value
import SessionMonitor.Text.Layout
import SessionMonitor.Text.Truncate

/-!
# Plans as tables

The rows of a plan under their column names, in columns of fixed width.
-/

namespace SessionMonitor.Screen.PlanTable

def columnLimit : Nat := 24

/-- The columns of a plan: those of its first row, in the order of their names. -/
def columns : List Json.Fields → List String
  | [] => []
  | first :: _ => first.map (·.1)

/-- The text of a row in a column; blank where the row has no such column. -/
def cell (row : Json.Fields) (column : String) : String :=
  match Json.Fields.get? row column with
  | some value => value.cellText
  | none => ""

/-- The width of a column: that of its longest text, up to the limit. -/
def columnWidth (plan : List Json.Fields) (column : String) : Nat :=
  min columnLimit
    ((column :: plan.map fun row => cell row column).foldl (fun n s => max n s.toList.length) 0)

/-- Texts in columns of the given widths, two blanks apart. -/
def formatRow (widths : List Nat) (texts : List String) : String :=
  Text.trimEnd (String.intercalate "  "
    ((texts.zip widths).map fun item => Text.padRight (Text.truncate item.1 item.2) item.2))

def table (plan : List Json.Fields) : String × List String :=
  let columns := columns plan
  let widths := columns.map (columnWidth plan)
  (formatRow widths columns, plan.map fun row => formatRow widths (columns.map (cell row)))

end SessionMonitor.Screen.PlanTable
