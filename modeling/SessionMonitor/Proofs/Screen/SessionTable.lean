import SessionMonitor.Proofs.Console.Cursor
import SessionMonitor.Proofs.Screen.Painting
import SessionMonitor.Screen.Picture

/-!
# The row that stands out

Of the session table only the row under the cursor stands out, and the table is scrolled so far that
this row is drawn. On the screen its line is the only one with bold cells behind the marks.
-/

namespace SessionMonitor.Screen

/-- A table is scrolled no farther than to the selected row, and far enough. -/
theorem firstRow_le {row count room : Nat} (shown : row < count) (some : 0 < room) :
    firstRow (.some row) count room ≤ row ∧ row < firstRow (.some row) count room + room := by
  unfold firstRow
  dsimp only
  omega

namespace SessionTable

variable {c : Console}

/-- The first row that is drawn where there is room for so many. -/
def top (c : Console) (room : Nat) : Nat :=
  firstRow (some c.cursor) (rows c).length room

def drawn (c : Console) (room : Nat) : List TableRow :=
  ((rows c).drop (top c room)).take room

/-- The widths of the columns that have room. -/
def columnWidths (room : Nat) : List Nat :=
  fitWidths (room - gap * ((widths room).length - 1)) (widths room)

def marksWidth (room : Nat) : Nat :=
  (columnWidths room).headD 0

def putRow (a : Area) (g : Grid) (line : Nat) (row : TableRow) : Grid :=
  g.putTableRow ⟨a.inner.x, a.inner.y + line, a.inner.width, 1⟩ (columnWidths a.inner.width) gap row

def putRows (g : Grid) (a : Area) (rows : List TableRow) : Grid :=
  rows.zipIdx.foldl (fun g entry => putRow a g (entry.2 + 1) entry.1) g

/-- The box with the heading in its first line. -/
def putHeading (g : Grid) (a : Area) (c : Console) : Grid :=
  putRow a (g.putBox a { title := title c, style := .colored .white }) 0 (heading c.engine.sorting)

theorem draw_eq (g : Grid) (a : Area) (sound : c.Sound) (shown : c.engine.visibleSize ≠ 0)
    (wide : a.inner.width ≠ 0) (high : a.inner.height ≠ 0) :
    draw g a c = putRows (putHeading g a c) a (drawn c (a.inner.height - 1)) := by
  have some : c.engine.visibleSessions.isEmpty = false := by
    refine List.isEmpty_eq_false_iff.mpr fun empty => shown ?_
    rw [sound.coherent.visibleSize, empty]
    rfl
  have room : ¬(a.inner.width = 0 ∨ a.inner.height = 0) := not_or.mpr ⟨wide, high⟩
  rw [draw, some]
  show Grid.putTable _ _ _ _ _ = _
  unfold Grid.putTable
  dsimp only
  rw [if_neg room]
  rfl

theorem getElem?_rows (c : Console) (k : Nat) :
    (rows c)[k]? = c.engine.visibleSessions[k]?.map fun session =>
      row session (c.engine.selection.contains session.id) (k = c.cursor) := by
  rw [rows, List.getElem?_map, List.getElem?_zipIdx, Option.map_map, Nat.zero_add]
  rfl

theorem getElem?_drawn {room k : Nat} (below : k < room) :
    (drawn c room)[k]? = c.engine.visibleSessions[top c room + k]?.map fun session =>
      row session (c.engine.selection.contains session.id) (top c room + k = c.cursor) := by
  rw [drawn, List.getElem?_take, if_pos below, List.getElem?_drop, getElem?_rows]

theorem length_rows (sound : c.Sound) : (rows c).length = c.engine.visibleSize := by
  rw [sound.coherent.visibleSize]
  simp [rows]

theorem top_le (sound : c.Sound) (shown : c.engine.visibleSize ≠ 0) {room : Nat}
    (some : 0 < room) : top c room ≤ c.cursor ∧ c.cursor < top c room + room :=
  firstRow_le (length_rows sound ▸ sound.cursor_lt shown) some

/-! ### The lines of the table -/

/-- Some cell behind the marks is bold on a line of the table; the lines are counted from below the
heading. -/
def StandsOut (g : Grid) (a : Area) (k : Nat) : Prop :=
  ∃ x, marksWidth a.inner.width ≤ x ∧ x < a.inner.width ∧
    g.IsBold (a.inner.x + x) (a.inner.y + (k + 1))

/-- Below the heading one line stands out, and it has the row of the session under the cursor. -/
def ShowsCursor (g : Grid) (a : Area) (c : Console) : Prop :=
  ∃ k, k + 1 < a.inner.height ∧
    (drawn c (a.inner.height - 1))[k]? = (c.cursorSession?.map fun session =>
      row session (c.engine.selection.contains session.id) true) ∧
    ∀ j, j + 1 < a.inner.height → (StandsOut g a j ↔ j = k)

theorem exists_columnWidths (room : Nat) :
    ∃ others, columnWidths room = marksWidth room :: others :=
  ⟨_, rfl⟩

theorem marksWidth_lt {room : Nat} (some : room ≠ 0) : marksWidth room < room := by
  have narrow : marksWidth room ≤ room - gap * fixedWidths.length - statementWidth :=
    Nat.le_trans (Nat.min_le_left _ _) (Nat.min_le_right _ _)
  have spare : 0 < gap * fixedWidths.length := by decide
  omega

theorem painted_putRow (g : Grid) (a : Area) (line : Nat) (row : TableRow) :
    Grid.Painted (fun _ j => j = a.inner.y + line) (fun _ => True) g (putRow a g line row) :=
  let single : Area := ⟨a.inner.x, a.inner.y + line, a.inner.width, 1⟩
  Grid.painted_putTableRow g (show single.height = 1 from rfl) _ _ _

theorem painted_entries (g : Grid) (a : Area) (entries : List (TableRow × Nat)) :
    Grid.Painted (fun _ j => ∃ entry ∈ entries, j = a.inner.y + (entry.2 + 1)) (fun _ => True) g
      (entries.foldl (fun g entry => putRow a g (entry.2 + 1) entry.1) g) :=
  .foldl (fun g entry member =>
    (painted_putRow g a _ _).mono (fun _ _ line => ⟨entry, member, line⟩) fun _ => id) g

theorem exists_cell?_putRows {g : Grid} {a : Area} {rows : List TableRow} {k : Nat} {row : TableRow}
    (found : rows[k]? = some row) (x : Nat) :
    ∃ before : Grid, before.cell? x (a.inner.y + (k + 1)) = g.cell? x (a.inner.y + (k + 1)) ∧
      (putRows g a rows).cell? x (a.inner.y + (k + 1)) =
        (putRow a before (k + 1) row).cell? x (a.inner.y + (k + 1)) := by
  obtain ⟨inside, rfl⟩ := List.getElem?_eq_some_iff.mp found
  have split : rows.zipIdx =
      (rows.take k).zipIdx ++ (rows[k], k) :: (rows.drop (k + 1)).zipIdx (k + 1) := by
    conv_lhs => rw [← List.take_append_drop k rows, List.drop_eq_getElem_cons inside]
    rw [List.zipIdx_append, List.zipIdx_cons, List.length_take, Nat.min_eq_left (by omega),
      Nat.zero_add]
  rw [putRows, split, List.foldl_append, List.foldl_cons]
  refine ⟨_, (painted_entries g a _).cell?_eq ?_, (painted_entries _ a _).cell?_eq ?_⟩
  · rintro ⟨entry, member, line⟩
    have above := List.snd_lt_of_mem_zipIdx member
    rw [List.length_take] at above
    omega
  · rintro ⟨entry, member, line⟩
    have below := List.le_snd_of_mem_zipIdx member
    omega

theorem cell?_putRows_of_none {g : Grid} {a : Area} {rows : List TableRow} {k : Nat}
    (none : rows[k]? = none) (x : Nat) :
    (putRows g a rows).cell? x (a.inner.y + (k + 1)) = g.cell? x (a.inner.y + (k + 1)) := by
  refine (painted_entries g a _).cell?_eq ?_
  rintro ⟨entry, member, line⟩
  have above := List.snd_lt_of_mem_zipIdx member
  have short := List.getElem?_eq_none_iff.mp none
  omega

theorem unlit_putHeading {g : Grid} {a : Area} {x k : Nat}
    (unlit : ¬g.IsBold x (a.inner.y + (k + 1))) :
    ¬(putHeading g a c).IsBold x (a.inner.y + (k + 1)) := by
  have apart : ¬a.inner.y + (k + 1) = a.inner.y + 0 := by omega
  rw [putHeading, Grid.isBold_congr ((painted_putRow _ a 0 _).cell?_eq apart)]
  refine fun bold => unlit ((Grid.painted_putBox g a _).isBold ?_ bold)
  rintro style (rfl | rfl) <;> rfl

theorem isSome_putHeading {g : Grid} {a : Area} {x y : Nat} :
    ((putHeading g a c).cell? x y).isSome = (g.cell? x y).isSome :=
  (painted_putRow _ a 0 _).isSome_cell?.trans (Grid.painted_putBox g a _).isSome_cell?

/-- In a row only the mark is always bold. -/
theorem exists_row (session : Session) (selected underCursor : Bool) :
    ∃ mark rest style, row session selected underCursor = ⟨mark :: rest, style⟩ ∧
      style.emphasis.bold = underCursor ∧
      ∀ style, Grid.InCells rest style → style.emphasis.bold = false := by
  refine ⟨_, _, _, rfl, rfl, ?_⟩
  rintro style ⟨cell, member, styled⟩
  have one : ∃ text above, cell = ⟨.styled text above, .plain⟩ ∧ above.emphasis.bold = false := by
    simp only [List.mem_cons, List.not_mem_nil, or_false] at member
    rcases member with rfl | rfl | rfl | rfl | rfl | rfl | rfl | rfl
    case inr.inr.inr.inl => cases session.db <;> exact ⟨_, _, rfl, rfl⟩
    all_goals exact ⟨_, _, rfl, rfl⟩
  obtain ⟨text, above, rfl, dull⟩ := one
  rcases styled with rfl | ⟨span, only, rfl⟩
  · rfl
  · rw [List.mem_singleton.mp only]
    exact dull

section
variable {g : Grid} {a : Area} {rows : List TableRow} {k : Nat} {session : Session}
  {selected : Bool}

theorem not_standsOut_of_none (unlit : g.Unlit a.inner) (below : k + 1 < a.inner.height)
    (none : rows[k]? = none) : ¬StandsOut (putRows (putHeading g a c) a rows) a k := by
  rintro ⟨x, -, inside, bold⟩
  rw [Grid.isBold_congr (cell?_putRows_of_none none _)] at bold
  exact unlit_putHeading (unlit _ _ (Area.has_add inside below)).2 bold

theorem not_standsOut (unlit : g.Unlit a.inner) (below : k + 1 < a.inner.height)
    (found : rows[k]? = some (row session selected false)) :
    ¬StandsOut (putRows (putHeading g a c) a rows) a k := by
  rintro ⟨x, behind, inside, bold⟩
  obtain ⟨before, same, drawn⟩ := exists_cell?_putRows found (a.inner.x + x)
  obtain ⟨mark, rest, style, shape, dull, plain⟩ := exists_row session selected false
  obtain ⟨others, columns⟩ := exists_columnWidths a.inner.width
  rw [Grid.isBold_congr drawn, putRow, shape, columns] at bold
  have lit := Grid.isBold_of_putTableRow dull plain (by dsimp only; omega) bold
  rw [Grid.isBold_congr same] at lit
  exact unlit_putHeading (unlit _ _ (Area.has_add inside below)).2 lit

theorem standsOut (unlit : g.Unlit a.inner) (wide : a.inner.width ≠ 0)
    (below : k + 1 < a.inner.height) (found : rows[k]? = some (row session selected true)) :
    StandsOut (putRows (putHeading g a c) a rows) a k := by
  have room := marksWidth_lt wide
  refine ⟨marksWidth a.inner.width, Nat.le_refl _, room, ?_⟩
  obtain ⟨before, same, drawn⟩ :=
    exists_cell?_putRows found (a.inner.x + marksWidth a.inner.width)
  obtain ⟨mark, rest, style, shape, bold, -⟩ := exists_row session selected true
  obtain ⟨others, columns⟩ := exists_columnWidths a.inner.width
  rw [Grid.isBold_congr drawn, putRow, shape, columns]
  let line : Area := ⟨a.inner.x, a.inner.y + (k + 1), a.inner.width, 1⟩
  have inside : line.Has (line.x + marksWidth a.inner.width) (line.y + 0) :=
    Area.has_add room Nat.zero_lt_one
  refine Grid.isBold_putTableRow bold (by decide) inside ?_
  rw [same, isSome_putHeading]
  exact (unlit _ _ (Area.has_add room below)).1

theorem standsOut_iff (sound : c.Sound) (shown : c.engine.visibleSize ≠ 0)
    (unlit : g.Unlit a.inner) (wide : a.inner.width ≠ 0) (below : k + 1 < a.inner.height) :
    StandsOut (putRows (putHeading g a c) a (drawn c (a.inner.height - 1))) a k ↔
      top c (a.inner.height - 1) + k = c.cursor := by
  have line := getElem?_drawn (c := c) (show k < a.inner.height - 1 by omega)
  cases found : c.engine.visibleSessions[top c (a.inner.height - 1) + k]? with
  | none =>
    rw [found] at line
    have cursor := sound.cursor_lt shown
    have beyond := List.getElem?_eq_none_iff.mp found
    rw [sound.coherent.visibleSize] at cursor
    exact iff_of_false (not_standsOut_of_none unlit below line) (by omega)
  | some session =>
    rw [found, Option.map_some] at line
    by_cases here : top c (a.inner.height - 1) + k = c.cursor
    · rw [decide_eq_true here] at line
      exact iff_of_true (standsOut unlit wide below line) here
    · rw [decide_eq_false here] at line
      exact iff_of_false (not_standsOut unlit below line) here

theorem showsCursor_draw (sound : c.Sound) (shown : c.engine.visibleSize ≠ 0)
    (unlit : g.Unlit a.inner) (wide : a.inner.width ≠ 0) (high : 1 < a.inner.height) :
    ShowsCursor (draw g a c) a c := by
  obtain ⟨above, below⟩ := top_le sound shown (show 0 < a.inner.height - 1 by omega)
  refine ⟨c.cursor - top c (a.inner.height - 1), by omega, ?_, fun j inside => ?_⟩
  · rw [getElem?_drawn (by omega), sound.cursorSession?_eq, Nat.add_sub_cancel' above]
    simp
  · rw [draw_eq g a sound shown wide (by omega), standsOut_iff sound shown unlit wide inside]
    omega

end

end SessionTable

/-! ### The screen -/

section
variable {c : Console} {width height : Nat}

theorem cell?_blank {x y : Nat} (column : x < width) (line : y < height) :
    (Grid.blank width height).cell? x y = some .blank := by
  have place : y * width + x < width * height :=
    calc y * width + x < y * width + width := Nat.add_lt_add_left column _
      _ = (y + 1) * width := (Nat.succ_mul y width).symm
      _ ≤ height * width := Nat.mul_le_mul_right _ line
      _ = width * height := Nat.mul_comm _ _
  rw [Grid.cell?, Grid.blank, if_pos column, Array.getElem?_replicate, if_pos place]

def body (width height : Nat) : Area :=
  (Area.mk 0 0 width height).frame.2.1

/-- The header and the footer leave the body of the screen alone. -/
theorem unlit_body (c : Console) (width height : Nat) :
    let frame := (Area.mk 0 0 width height).frame
    (StatusBar.drawFooter (StatusBar.drawHeader (.blank width height) frame.1 c)
      frame.2.2 c).Unlit (body width height).inner := by
  intro frame x y inside
  have place : x < width ∧ y < height ∧ ¬(frame.1.y ≤ y ∧ y < frame.1.y + frame.1.height) ∧
      ¬(frame.2.2.y ≤ y ∧ y < frame.2.2.y + frame.2.2.height) := by
    simp only [Area.Has, body, Area.inner, Area.frame, Area.stack, Area.rows] at inside
    simp only [frame, Area.frame, Area.stack, Area.rows]
    omega
  have blank : (StatusBar.drawFooter (StatusBar.drawHeader (.blank width height) frame.1 c)
      frame.2.2 c).cell? x y = some .blank := by
    rw [StatusBar.drawFooter, (Grid.painted_putParagraph _ _ _ _).cell?_eq place.2.2.2,
      StatusBar.drawHeader, (Grid.painted_putParagraph _ _ _ _).cell?_eq place.2.2.1,
      cell?_blank place.1 place.2.1]
  refine ⟨by rw [blank]; rfl, ?_⟩
  rintro ⟨cell, found, bold⟩
  rw [blank] at found
  cases found
  cases bold

theorem showsCursor_picture (sound : c.Sound) (page : c.page = .sessions)
    (closed : c.detail = none) (shown : c.engine.visibleSize ≠ 0)
    (wide : (body width height).inner.width ≠ 0) (high : 1 < (body width height).inner.height) :
    SessionTable.ShowsCursor (picture c width height) (body width height) c := by
  have drawn : picture c width height = SessionTable.draw (StatusBar.drawFooter
      (StatusBar.drawHeader (.blank width height) (Area.mk 0 0 width height).frame.1 c)
      (Area.mk 0 0 width height).frame.2.2 c) (body width height) c := by
    unfold picture drawPage
    rw [closed, page]
    rfl
  rw [drawn]
  exact SessionTable.showsCursor_draw sound shown (unlit_body c width height) wide high

end

end SessionMonitor.Screen
