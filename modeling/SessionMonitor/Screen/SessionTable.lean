import SessionMonitor.Screen.Grid
import SessionMonitor.Text.Layout
import SessionMonitor.Text.Truncate

/-!
# The session table

A row for each shown session, with a box for its mark and the columns of the process list.
-/

namespace SessionMonitor.Screen.SessionTable

/-- The widths of the columns but for the last one. -/
def fixedWidths : List Nat := [3, 8, 12, 18, 12, 10, 6, 20]

def gap : Nat := 1

def statementWidth : Nat := 10

/-- The widths of all columns in `room` cells: the statement takes what the others leave, and they
give way where it would get less than its least width. -/
def widths (room : Nat) : List Nat :=
  let room := room - gap * fixedWidths.length
  fitWidths (room - statementWidth) fixedWidths
    ++ [max statementWidth (room - fixedWidths.foldr (· + ·) 0)]

/-- The heading of a column, with an arrow where it is sorted by. -/
def headingCell (sorting : Sorting) (column : SortKey × Nat) : TableCell :=
  let label := toString (column.2 + 1) ++ column.1.label
  if column.1 = sorting.key then .ofText (label ++ sorting.direction.arrow) (.bold .cyan)
  else .ofText label (.bold .white)

def heading (sorting : Sorting) : TableRow where
  cells := .ofText "" .plain :: SortKey.all.zipIdx.map (headingCell sorting)
  style := { emphasis := { underlined := true } }

def orEmpty (text : Option String) : String :=
  text.getD ""

def row (session : Session) (selected underCursor : Bool) : TableRow where
  cells := [
    ⟨.styled (if selected then "[x]" else "[ ]")
      (.bold (if selected then .yellow else .darkGray)), .plain⟩,
    .ofText session.id.text .plain,
    .ofText (Text.truncate session.user 12) .plain,
    ⟨.styled (Text.truncate session.host 18) (.colored .darkGray), .plain⟩,
    ⟨match session.db with
      | some db => .plain (Text.truncate db 12)
      | none => .styled "NULL" (.colored .darkGray), .plain⟩,
    ⟨.styled (Text.truncate session.command 10) (.colored (commandColor session.command)), .plain⟩,
    .ofText session.time.display .plain,
    .ofText (Text.truncate (orEmpty session.state) 20) .plain,
    .ofText (Text.singleLine (orEmpty session.info)) .plain]
  style := {
    background := rowBackground session.isWaiting underCursor
    emphasis := { bold := underCursor } }

def rows (c : Console) : List TableRow :=
  c.engine.visibleSessions.zipIdx.map fun entry =>
    row entry.1 (c.engine.selection.contains entry.1.id) (entry.2 = c.cursor)

def title (c : Console) : String :=
  let shown := toString c.engine.visibleSessions.length
  if c.engine.filter.isEmpty then " Processes (" ++ shown ++ ") "
  else " Processes (" ++ shown ++ " of " ++ toString c.engine.snapshot.size ++ ") "

def emptyLine (c : Console) : Line :=
  match c.updatedAt, c.pollFailure with
  | none, some failure => .styled ("Cannot reach backend: " ++ failure.message) (.bold .red)
  | none, none => .styled "Loading process list..." (.colored .yellow)
  | some _, _ =>
    if c.engine.filter.isEmpty then .styled "No active sessions" (.colored .darkGray)
    else .styled ("No processes match \"" ++ c.engine.filter.query ++ "\"") (.colored .yellow)

def draw (g : Grid) (a : Area) (c : Console) : Grid :=
  let box : Grid.Box := { title := title c, style := .colored .white }
  if c.engine.visibleSessions.isEmpty then g.putParagraph a box [.empty, emptyLine c]
  else g.putTable a box
    { heading := heading c.engine.sorting
      rows := rows c
      widths := widths a.inner.width
      gap := gap } (some c.cursor)

end SessionMonitor.Screen.SessionTable
