import SessionMonitor.Screen.Area
import SessionMonitor.Screen.Line
import SessionMonitor.Text.Layout

/-!
# The grid

The cells of the screen, and how text, borders, paragraphs and tables are drawn into them.
-/

namespace SessionMonitor.Screen

structure Cell where
  symbol : String
  style : Style
deriving DecidableEq, Repr

def Cell.blank : Cell := ⟨" ", .plain⟩

structure Grid where
  width : Nat
  height : Nat
  cells : Array Cell

namespace Grid

def blank (width height : Nat) : Grid :=
  ⟨width, height, Array.replicate (width * height) .blank⟩

def area (g : Grid) : Area := ⟨0, 0, g.width, g.height⟩

def modify (g : Grid) (x y : Nat) (f : Cell → Cell) : Grid :=
  if x < g.width then { g with cells := g.cells.modify (y * g.width + x) f } else g

def fill (g : Grid) (a : Area) (f : Cell → Cell) : Grid :=
  (List.range a.height).foldl (fun g row =>
    (List.range a.width).foldl (fun g column => g.modify (a.x + column) (a.y + row) f) g) g

def setStyle (g : Grid) (a : Area) (style : Style) : Grid :=
  g.fill a fun cell => { cell with style := cell.style.patch style }

def clear (g : Grid) (a : Area) : Grid :=
  g.fill a fun _ => .blank

def putSymbol (g : Grid) (x y : Nat) (symbol : String) (style : Style) : Grid :=
  g.modify x y fun cell => ⟨symbol, cell.style.patch style⟩

def putGlyphs (g : Grid) (x y : Nat) : List Glyph → Grid
  | [] => g
  | glyph :: rest => putGlyphs (g.putSymbol x y glyph.symbol glyph.style) (x + glyph.width) y rest

/-- Draws a line of at most `width` cells, and blanks the cells that wide glyphs cover. -/
def putLine (g : Grid) (x y width : Nat) (line : Line) : Grid :=
  (clip width line.glyphs).foldl (fun (drawn : Grid × Nat) glyph =>
    let (g, x) := drawn
    let g := g.putSymbol x y glyph.symbol glyph.style
    ((List.range (glyph.width - 1)).foldl (fun g k => g.modify (x + 1 + k) y fun _ => .blank) g,
      x + glyph.width)) (g, x) |>.1

/-! ### Boxes and paragraphs -/

structure Box where
  title : String := ""
  style : Style := .plain

def putBox (g : Grid) (a : Area) (box : Box) : Grid :=
  if a.width = 0 ∨ a.height = 0 then g
  else
    let right := a.x + a.width - 1
    let bottom := a.y + a.height - 1
    let put (symbol : String) (g : Grid) (place : Nat × Nat) : Grid :=
      g.putSymbol place.1 place.2 symbol box.style
    let ys := (List.range a.height).map (a.y + ·)
    let xs := (List.range a.width).map (a.x + ·)
    let g := ys.foldl (fun g y => put "│" g (a.x, y)) g
    let g := xs.foldl (fun g x => put "─" g (x, a.y)) g
    let g := ys.foldl (fun g y => put "│" g (right, y)) g
    let g := xs.foldl (fun g x => put "─" g (x, bottom)) g
    let g := put "┘" g (right, bottom)
    let g := put "┐" g (right, a.y)
    let g := put "└" g (a.x, bottom)
    let g := put "┌" g (a.x, a.y)
    g.putLine (a.x + 1) a.y (a.width - 2) (.plain box.title)

/-- Draws lines of glyphs from the top of an area; those below it are dropped. -/
def putRows (g : Grid) (a : Area) (rows : List (List Glyph)) : Grid :=
  if a.width = 0 then g
  else (rows.take a.height).zipIdx.foldl (fun g row => g.putGlyphs a.x (a.y + row.2) row.1) g

/-- The glyphs of a line that a width has room for at all, cut to that width. -/
def cutLine (width : Nat) (line : Line) : List Glyph :=
  clip width (line.glyphs.filter fun g => g.width ≤ width)

def putParagraph (g : Grid) (a : Area) (box : Box) (lines : List Line) : Grid :=
  (g.putBox a box).putRows a.inner (lines.map (cutLine a.inner.width))

def putText (g : Grid) (a : Area) (box : Box) (lines : List Line) : Grid :=
  (g.putBox a box).putRows a.inner
    (lines.flatMap fun line => breakGlyphs a.inner.width line.glyphs)

/-! ### Tables -/

end Grid

structure TableCell where
  line : Line
  style : Style := .plain
deriving DecidableEq, Repr

structure TableRow where
  cells : List TableCell
  style : Style := .plain
deriving DecidableEq, Repr

/-- A table: its heading, its rows, the widths of its columns and the gap between them. -/
structure Table where
  heading : TableRow
  rows : List TableRow
  widths : List Nat
  gap : Nat

def TableCell.ofText (text : String) (style : Style) : TableCell :=
  ⟨.plain ((Text.lines text).headD ""), style⟩

/-- Widths from left to right, as far as there is room. -/
def fitWidths : Nat → List Nat → List Nat
  | _, [] => []
  | room, width :: rest => min width room :: fitWidths (room - width) rest

/-- The widths of the columns in `room` cells. Gaps are never given up for columns. -/
def Table.fittedWidths (table : Table) (room : Nat) : List Nat :=
  fitWidths (room - table.gap * (table.widths.length - 1)) table.widths

def columnOffsets (gap : Nat) (start : Nat) : List Nat → List Nat
  | [] => []
  | width :: rest => start :: columnOffsets gap (start + width + gap) rest

/-- The first row that is drawn so that the row `selected` is among `room` rows. -/
def firstRow (selected : Option Nat) (count room : Nat) : Nat :=
  match selected with
  | some row => min row (count - 1) + 1 - room
  | none => 0

namespace Grid

def putTableRow (g : Grid) (a : Area) (widths : List Nat) (gap : Nat) (row : TableRow) : Grid :=
  let columns := (columnOffsets gap 0 widths).zip widths
  (row.cells.zip columns).foldl (fun g item =>
    let (cell, offset, width) := item
    let width := min width (a.width - offset)
    (g.setStyle ⟨a.x + offset, a.y, width, 1⟩ cell.style).putLine (a.x + offset) a.y width
      cell.line) (g.setStyle a row.style)

/-- Draws a table in a box, scrolled just so far that the row `selected` is drawn. -/
def putTable (g : Grid) (a : Area) (box : Box) (table : Table) (selected : Option Nat) : Grid :=
  let g := g.putBox a box
  let inner := a.inner
  if inner.width = 0 ∨ inner.height = 0 then g
  else
    let widths := table.fittedWidths inner.width
    let put (g : Grid) (y : Nat) (row : TableRow) : Grid :=
      g.putTableRow ⟨inner.x, inner.y + y, inner.width, 1⟩ widths table.gap row
    let room := inner.height - 1
    let first := firstRow selected table.rows.length room
    ((table.rows.drop first).take room).zipIdx.foldl (fun g row => put g (row.2 + 1) row.1)
      (put g 0 table.heading)

end Grid

end SessionMonitor.Screen
