import SessionMonitor.Screen.Grid

/-!
# Painting

Whatever is drawn is painted cell by cell: a style is laid over that of a cell, or the cell is
cleared. A drawing is described by its places and its styles, and from these it follows which cells
it leaves alone and which can become bold.
-/

namespace SessionMonitor.Screen

def Area.Has (a : Area) (x y : Nat) : Prop :=
  (a.x ≤ x ∧ x < a.x + a.width) ∧ a.y ≤ y ∧ y < a.y + a.height

theorem Area.has_add {a : Area} {x y : Nat} (column : x < a.width) (line : y < a.height) :
    a.Has (a.x + x) (a.y + y) :=
  ⟨⟨Nat.le_add_right _ _, Nat.add_lt_add_left column _⟩,
    Nat.le_add_right _ _, Nat.add_lt_add_left line _⟩

theorem Style.bold_patch (under above : Style) :
    (under.patch above).emphasis.bold = (under.emphasis.bold || above.emphasis.bold) :=
  rfl

/-! ### Glyphs -/

theorem glyphsWidth_clip_le (width : Nat) (glyphs : List Glyph) :
    glyphsWidth (clip width glyphs) ≤ width := by
  induction glyphs generalizing width with
  | nil => exact Nat.zero_le _
  | cons glyph rest ih =>
    rw [clip]
    split
    · rename_i fits
      have later := ih (width - glyph.width)
      change glyph.width + glyphsWidth _ ≤ width
      omega
    · exact Nat.zero_le _

theorem mem_of_mem_clip {glyph : Glyph} {width : Nat} {glyphs : List Glyph}
    (member : glyph ∈ clip width glyphs) : glyph ∈ glyphs := by
  induction glyphs generalizing width with
  | nil => cases member
  | cons first rest ih =>
    rw [clip] at member
    split at member
    · rcases List.mem_cons.mp member with rfl | later
      · exact List.mem_cons_self
      · exact List.mem_cons_of_mem _ (ih later)
    · cases member

namespace Span

variable {style : Style}

/-- The glyphs after one more character; the last glyph stands first. -/
def extend (style : Style) (done : List Glyph) (c : Char) : List Glyph :=
  let fresh : List Glyph :=
    if c = '\n' || Text.charWidth c = 0 then done else ⟨c, [], style⟩ :: done
  match done with
  | last :: rest =>
    if joins last.base c then { last with marks := last.marks ++ [c] } :: rest else fresh
  | [] => fresh

theorem glyphsOf_eq (style : Style) (s : List Char) :
    glyphsOf style s = (s.foldl (extend style) []).reverse :=
  rfl

theorem forall_mem_extend {done : List Glyph} (c : Char)
    (sound : ∀ g ∈ done, g.style = style ∧ g.width ≠ 0) :
    ∀ g ∈ extend style done c, g.style = style ∧ g.width ≠ 0 := by
  have alone : ∀ g ∈ (if c = '\n' || Text.charWidth c = 0 then done else ⟨c, [], style⟩ :: done),
      g.style = style ∧ g.width ≠ 0 := by
    split
    · exact sound
    · rename_i shown
      simp only [Bool.or_eq_true, decide_eq_true_eq, not_or] at shown
      exact List.forall_mem_cons.mpr ⟨⟨rfl, shown.2⟩, sound⟩
  cases done with
  | nil => exact alone
  | cons last rest =>
    unfold extend
    dsimp only
    split
    · exact List.forall_mem_cons.mpr (List.forall_mem_cons.mp sound)
    · exact alone

theorem forall_mem_foldl_extend {done : List Glyph} (s : List Char)
    (sound : ∀ g ∈ done, g.style = style ∧ g.width ≠ 0) :
    ∀ g ∈ s.foldl (extend style) done, g.style = style ∧ g.width ≠ 0 := by
  induction s generalizing done with
  | nil => exact sound
  | cons c rest ih => exact ih (forall_mem_extend c sound)

theorem glyph_of_mem {s : List Char} {glyph : Glyph} (member : glyph ∈ glyphsOf style s) :
    glyph.style = style ∧ glyph.width ≠ 0 := by
  rw [glyphsOf_eq] at member
  exact forall_mem_foldl_extend s (List.forall_mem_nil _) glyph (List.mem_reverse.mp member)

end Span

theorem Line.glyph_of_mem {line : Line} {glyph : Glyph} (member : glyph ∈ line.glyphs) :
    (∃ span ∈ line, glyph.style = span.style) ∧ glyph.width ≠ 0 := by
  obtain ⟨span, among, drawn⟩ := List.mem_flatMap.mp member
  obtain ⟨style, room⟩ := Span.glyph_of_mem drawn
  exact ⟨⟨span, among, style⟩, room⟩

namespace Grid

/-! ### Cells -/

def cell? (g : Grid) (x y : Nat) : Option Cell :=
  if x < g.width then g.cells[y * g.width + x]? else none

def IsBold (g : Grid) (x y : Nat) : Prop :=
  ∃ cell ∈ g.cell? x y, cell.style.emphasis.bold = true

/-- Every place of an area is on the screen, and no cell of it is bold. -/
def Unlit (g : Grid) (a : Area) : Prop :=
  ∀ x y, a.Has x y → (g.cell? x y).isSome ∧ ¬g.IsBold x y

theorem isBold_congr {g g' : Grid} {x y : Nat} (same : g'.cell? x y = g.cell? x y) :
    g'.IsBold x y ↔ g.IsBold x y := by
  rw [IsBold, IsBold, same]

theorem place_eq_iff {width x y i j : Nat} (left : x < width) (right : i < width) :
    y * width + x = j * width + i ↔ x = i ∧ y = j := by
  refine ⟨fun same => ?_, fun ⟨column, line⟩ => by rw [column, line]⟩
  have line (k : Nat) {x : Nat} (inside : x < width) : (k * width + x) / width = k := by
    rw [Nat.mul_comm, Nat.mul_add_div (by omega), Nat.div_eq_of_lt inside, Nat.add_zero]
  have lines : y = j := by rw [← line y left, same, line j right]
  subst lines
  exact ⟨Nat.add_left_cancel same, rfl⟩

theorem cell?_modify (g : Grid) (x y : Nat) (f : Cell → Cell) (i j : Nat) :
    (g.modify x y f).cell? i j = if x = i ∧ y = j then (g.cell? i j).map f else g.cell? i j := by
  unfold modify cell?
  by_cases inside : x < g.width
  · rw [if_pos inside]
    by_cases shown : i < g.width
    · simp only [if_pos shown, Array.getElem?_modify, place_eq_iff inside shown]
    · simp only [if_neg shown, Option.map_none, ite_self]
  · rw [if_neg inside]
    by_cases same : x = i ∧ y = j
    · rw [if_pos same, if_neg (same.1 ▸ inside)]
      rfl
    · rw [if_neg same]

theorem cell?_foldl_modify (g : Grid) (x y : Nat) (f : Cell → Cell) (n i j : Nat) :
    ((List.range n).foldl (fun g column => g.modify (x + column) y f) g).cell? i j =
      if (x ≤ i ∧ i < x + n) ∧ y = j then (g.cell? i j).map f else g.cell? i j := by
  induction n with
  | zero => rw [if_neg (by omega)]; rfl
  | succ n ih =>
    rw [List.range_succ, List.foldl_append, List.foldl_cons, List.foldl_nil, cell?_modify, ih]
    by_cases last : x + n = i ∧ y = j
    · rw [if_pos last, if_neg (by omega), if_pos (by omega)]
    · rw [if_neg last]
      exact ite_congr (propext (by omega)) (fun _ => rfl) fun _ => rfl

theorem cell?_fill (g : Grid) (a : Area) (f : Cell → Cell) (i j : Nat) :
    (g.fill a f).cell? i j =
      if (a.x ≤ i ∧ i < a.x + a.width) ∧ a.y ≤ j ∧ j < a.y + a.height then (g.cell? i j).map f
      else g.cell? i j := by
  unfold fill
  generalize a.height = n
  induction n with
  | zero => rw [if_neg (by omega)]; rfl
  | succ n ih =>
    rw [List.range_succ, List.foldl_append, List.foldl_cons, List.foldl_nil,
      cell?_foldl_modify, ih]
    by_cases last : (a.x ≤ i ∧ i < a.x + a.width) ∧ a.y + n = j
    · rw [if_pos last, if_neg (by omega), if_pos (by omega)]
    · rw [if_neg last]
      exact ite_congr (propext (by omega)) (fun _ => rfl) fun _ => rfl

theorem isBold_modify {g : Grid} {x y i j : Nat} {f : Cell → Cell}
    (keeps : ∀ cell, (f cell).style.emphasis.bold = true → cell.style.emphasis.bold = true)
    (bold : (g.modify x y f).IsBold i j) : g.IsBold i j := by
  obtain ⟨cell, found, lit⟩ := bold
  rw [cell?_modify] at found
  split at found
  · obtain ⟨under, there, rfl⟩ := Option.map_eq_some_iff.mp found
    exact ⟨under, there, keeps under lit⟩
  · exact ⟨cell, found, lit⟩

/-! ### Drawings -/

/-- Some cells have been painted one after the other, each at one of the places: one of the styles
has been laid over it, or it has been cleared. -/
inductive Painted (places : Nat → Nat → Prop) (styles : Style → Prop) (g : Grid) : Grid → Prop where
  | refl : Painted places styles g g
  | put {g' : Grid} {x y : Nat} {f : Cell → Cell} {style : Style}
    (before : Painted places styles g g') (place : places x y) (allowed : styles style)
    (lays : ∀ cell, (f cell).style = cell.style.patch style) :
    Painted places styles g (g'.modify x y f)
  | clear {g' : Grid} {x y : Nat} (before : Painted places styles g g') (place : places x y) :
    Painted places styles g (g'.modify x y fun _ => .blank)

namespace Painted

variable {g g' g'' : Grid} {places places' : Nat → Nat → Prop} {styles styles' : Style → Prop}
  {x y : Nat}

theorem trans (first : Painted places styles g g') (second : Painted places styles g' g'') :
    Painted places styles g g'' := by
  induction second with
  | refl => exact first
  | put _ place allowed lays ih => exact ih.put place allowed lays
  | clear _ place ih => exact ih.clear place

theorem mono (h : Painted places styles g g') (wider : ∀ x y, places x y → places' x y)
    (more : ∀ style, styles style → styles' style) : Painted places' styles' g g' := by
  induction h with
  | refl => exact .refl
  | put _ place allowed lays ih => exact ih.put (wider _ _ place) (more _ allowed) lays
  | clear _ place ih => exact ih.clear (wider _ _ place)

theorem foldl {α : Type} {l : List α} {step : Grid → α → Grid}
    (each : ∀ g, ∀ i ∈ l, Painted places styles g (step g i)) (g : Grid) :
    Painted places styles g (l.foldl step g) := by
  induction l generalizing g with
  | nil => exact .refl
  | cons i rest ih =>
    obtain ⟨first, later⟩ := List.forall_mem_cons.mp (fun i member g => each g i member)
    exact (first g).trans (ih (fun g i member => later i member g) _)

theorem cell?_eq (h : Painted places styles g g') (away : ¬places x y) :
    g'.cell? x y = g.cell? x y := by
  induction h with
  | refl => rfl
  | put _ place _ _ ih | clear _ place ih =>
    rw [cell?_modify, if_neg, ih]
    rintro ⟨rfl, rfl⟩
    exact away place

theorem isSome_cell? (h : Painted places styles g g') :
    (g'.cell? x y).isSome = (g.cell? x y).isSome := by
  induction h with
  | refl => rfl
  | put _ _ _ _ ih | clear _ _ ih =>
    rw [cell?_modify, ← ih]
    split
    · exact Option.isSome_map
    · rfl

theorem isBold (h : Painted places styles g g')
    (dull : ∀ style, styles style → style.emphasis.bold = false) (bold : g'.IsBold x y) :
    g.IsBold x y := by
  induction h with
  | refl => exact bold
  | put _ _ allowed lays ih =>
    refine ih (isBold_modify (fun cell lit => ?_) bold)
    rwa [lays, Style.bold_patch, dull _ allowed, Bool.or_false] at lit
  | clear _ _ ih => exact ih (isBold_modify (fun _ lit => by cases lit) bold)

end Painted

variable (g : Grid)

theorem painted_putSymbol (x y : Nat) (symbol : String) (style : Style) :
    Painted (fun i j => i = x ∧ j = y) (· = style) g (g.putSymbol x y symbol style) :=
  .put .refl ⟨rfl, rfl⟩ rfl fun _ => rfl

theorem painted_setStyle (a : Area) (style : Style) :
    Painted a.Has (· = style) g (g.setStyle a style) := by
  refine .foldl (fun g row inRows => .foldl (fun g column inColumns => ?_) g) g
  have inside : a.Has (a.x + column) (a.y + row) :=
    Area.has_add (List.mem_range.mp inColumns) (List.mem_range.mp inRows)
  exact .put .refl inside rfl fun _ => rfl

theorem isBold_setStyle {g : Grid} {a : Area} {style : Style} {x y : Nat}
    (bold : style.emphasis.bold = true) (inside : a.Has x y) (shown : (g.cell? x y).isSome) :
    (g.setStyle a style).IsBold x y := by
  obtain ⟨cell, found⟩ := Option.isSome_iff_exists.mp shown
  have there : (g.setStyle a style).cell? x y =
      some { cell with style := cell.style.patch style } := by
    rw [setStyle, cell?_fill, if_pos (by exact inside), found]
    rfl
  refine ⟨_, there, ?_⟩
  rw [Style.bold_patch, bold, Bool.or_true]

/-- Draws a glyph and blanks the cells that it covers, then goes on behind it. -/
def putWide (y : Nat) (drawn : Grid × Nat) (glyph : Glyph) : Grid × Nat :=
  ((List.range (glyph.width - 1)).foldl (fun g k => g.modify (drawn.2 + 1 + k) y fun _ => .blank)
    (drawn.1.putSymbol drawn.2 y glyph.symbol glyph.style), drawn.2 + glyph.width)

theorem putLine_eq (x y width : Nat) (line : Line) :
    g.putLine x y width line = ((clip width line.glyphs).foldl (putWide y) (g, x)).1 :=
  rfl

theorem painted_putWide {glyph : Glyph} (room : glyph.width ≠ 0) (x y : Nat) :
    Painted (fun i j => (x ≤ i ∧ i < x + glyph.width) ∧ j = y) (· = glyph.style) g
      (putWide y (g, x) glyph).1 := by
  have symbol : Painted (fun i j => (x ≤ i ∧ i < x + glyph.width) ∧ j = y) (· = glyph.style) g
      (g.putSymbol x y glyph.symbol glyph.style) :=
    (g.painted_putSymbol x y _ _).mono (fun i j ⟨column, line⟩ => ⟨by omega, line⟩) fun _ => id
  refine symbol.trans (.foldl (fun g k covered => ?_) _)
  have within := List.mem_range.mp covered
  exact .clear .refl ⟨by omega, rfl⟩

theorem painted_foldl_putWide {glyphs : List Glyph} (room : ∀ glyph ∈ glyphs, glyph.width ≠ 0)
    (x y : Nat) :
    Painted (fun i j => (x ≤ i ∧ i < x + glyphsWidth glyphs) ∧ j = y)
      (fun style => ∃ glyph ∈ glyphs, style = glyph.style) g
      (glyphs.foldl (putWide y) (g, x)).1 := by
  induction glyphs generalizing g x with
  | nil => exact .refl
  | cons glyph rest ih =>
    obtain ⟨first, later⟩ := List.forall_mem_cons.mp room
    have total : glyphsWidth (glyph :: rest) = glyph.width + glyphsWidth rest := rfl
    refine ((g.painted_putWide first x y).mono (fun i j ⟨column, line⟩ => ⟨by omega, line⟩)
      fun style same => ⟨glyph, List.mem_cons_self, same⟩).trans ?_
    refine (ih _ later _).mono (fun i j ⟨column, line⟩ => ⟨?_, line⟩)
      fun style ⟨other, member, same⟩ => ⟨other, List.mem_cons_of_mem _ member, same⟩
    dsimp only [putWide] at column
    omega

theorem painted_putLine (x y width : Nat) (line : Line) :
    Painted (fun i j => (x ≤ i ∧ i < x + width) ∧ j = y)
      (fun style => ∃ span ∈ line, style = span.style) g (g.putLine x y width line) := by
  have room : ∀ glyph ∈ clip width line.glyphs, glyph.width ≠ 0 :=
    fun glyph member => (Line.glyph_of_mem (mem_of_mem_clip member)).2
  have fits := glyphsWidth_clip_le width line.glyphs
  rw [putLine_eq]
  refine (g.painted_foldl_putWide room x y).mono (fun i j ⟨column, line⟩ => ⟨by omega, line⟩) ?_
  rintro style ⟨glyph, member, rfl⟩
  exact (Line.glyph_of_mem (mem_of_mem_clip member)).1

/-! ### Boxes -/

section
variable {g g' : Grid} {a : Area} {box : Box} {styles : Style → Prop}

theorem Painted.thenSymbol (before : Painted a.Has styles g g') (allowed : styles box.style)
    {x y : Nat} (inside : a.Has x y) (symbol : String) :
    Painted a.Has styles g (g'.putSymbol x y symbol box.style) :=
  before.put inside allowed fun _ => rfl

theorem Painted.thenSide (before : Painted a.Has styles g g') (allowed : styles box.style)
    {x : Nat} (inside : a.x ≤ x ∧ x < a.x + a.width) (symbol : String) :
    Painted a.Has styles g (((List.range a.height).map (a.y + ·)).foldl
      (fun g y => g.putSymbol x y symbol box.style) g') := by
  refine before.trans (.foldl (fun g y member => ?_) g')
  obtain ⟨k, among, rfl⟩ := List.mem_map.mp member
  have below := List.mem_range.mp among
  exact Painted.refl.thenSymbol allowed ⟨inside, by omega, by omega⟩ symbol

theorem Painted.thenEdge (before : Painted a.Has styles g g') (allowed : styles box.style)
    {y : Nat} (inside : a.y ≤ y ∧ y < a.y + a.height) (symbol : String) :
    Painted a.Has styles g (((List.range a.width).map (a.x + ·)).foldl
      (fun g x => g.putSymbol x y symbol box.style) g') := by
  refine before.trans (.foldl (fun g x member => ?_) g')
  obtain ⟨k, among, rfl⟩ := List.mem_map.mp member
  have left := List.mem_range.mp among
  exact Painted.refl.thenSymbol allowed ⟨⟨by omega, by omega⟩, inside⟩ symbol

theorem painted_putBox (g : Grid) (a : Area) (box : Box) :
    Painted a.Has (fun style => style = box.style ∨ style = .plain) g (g.putBox a box) := by
  unfold putBox
  split
  · exact .refl
  · rename_i room
    have left : a.x ≤ a.x ∧ a.x < a.x + a.width := by omega
    have right : a.x ≤ a.x + a.width - 1 ∧ a.x + a.width - 1 < a.x + a.width := by omega
    have top : a.y ≤ a.y ∧ a.y < a.y + a.height := by omega
    have bottom : a.y ≤ a.y + a.height - 1 ∧ a.y + a.height - 1 < a.y + a.height := by omega
    have border : box.style = box.style ∨ box.style = .plain := .inl rfl
    have title (g : Grid) :
        Painted a.Has (fun style => style = box.style ∨ style = .plain) g
          (g.putLine (a.x + 1) a.y (a.width - 2) (.plain box.title)) := by
      refine (g.painted_putLine _ _ _ _).mono
        (fun i j ⟨within, above⟩ => ⟨by omega, by omega⟩) ?_
      rintro style ⟨span, member, rfl⟩
      rw [List.mem_singleton.mp member]
      exact .inr rfl
    have start : Painted a.Has (fun style => style = box.style ∨ style = .plain) g g := .refl
    have sides := start.thenSide border left "│" |>.thenEdge border top "─"
      |>.thenSide border right "│" |>.thenEdge border bottom "─"
    have corners := sides.thenSymbol border ⟨right, bottom⟩ "┘"
      |>.thenSymbol border ⟨right, top⟩ "┐" |>.thenSymbol border ⟨left, bottom⟩ "└"
      |>.thenSymbol border ⟨left, top⟩ "┌"
    exact corners.trans (title _)

end

/-! ### Lines below each other -/

theorem painted_putGlyphs (x y : Nat) (glyphs : List Glyph) :
    Painted (fun _ j => j = y) (fun _ => True) g (g.putGlyphs x y glyphs) := by
  induction glyphs generalizing g x with
  | nil => exact .refl
  | cons glyph rest ih =>
    have first := (g.painted_putSymbol x y glyph.symbol glyph.style).mono
      (fun i j place => place.2) fun _ _ => trivial
    exact first.trans (ih _ _)

theorem painted_putRows (a : Area) (rows : List (List Glyph)) :
    Painted (fun _ j => a.y ≤ j ∧ j < a.y + a.height) (fun _ => True) g (g.putRows a rows) := by
  unfold putRows
  split
  · exact .refl
  · refine .foldl (fun g row member => ?_) g
    have below := List.snd_lt_of_mem_zipIdx member
    rw [List.length_take] at below
    exact (g.painted_putGlyphs _ _ _).mono (fun i j line => by omega) fun _ => id

/-- A paragraph stays within its lines. -/
theorem painted_putParagraph (a : Area) (box : Box) (lines : List Line) :
    Painted (fun _ j => a.y ≤ j ∧ j < a.y + a.height) (fun _ => True) g
      (g.putParagraph a box lines) := by
  refine ((painted_putBox g a box).mono (fun i j inside => inside.2) fun _ _ => trivial).trans ?_
  refine (painted_putRows _ _ _).mono (fun i j inside => ?_) fun _ => id
  dsimp only [Area.inner] at inside
  omega

/-! ### Rows of tables -/

/-- Draws a cell of a table at its offset, as wide as there is room. -/
def putTableCell (a : Area) (g : Grid) (item : TableCell × Nat × Nat) : Grid :=
  let width := min item.2.2 (a.width - item.2.1)
  (g.setStyle ⟨a.x + item.2.1, a.y, width, 1⟩ item.1.style).putLine (a.x + item.2.1) a.y width
    item.1.line

theorem putTableRow_eq (a : Area) (widths : List Nat) (gap : Nat) (row : TableRow) :
    g.putTableRow a widths gap row =
      (row.cells.zip ((columnOffsets gap 0 widths).zip widths)).foldl (putTableCell a)
        (g.setStyle a row.style) :=
  rfl

theorem painted_putTableCell (a : Area) (item : TableCell × Nat × Nat) :
    Painted (fun i j => (a.x + item.2.1 ≤ i ∧ i < a.x + item.2.1 + item.2.2) ∧ j = a.y)
      (fun style => style = item.1.style ∨ ∃ span ∈ item.1.line, style = span.style) g
      (putTableCell a g item) := by
  refine .trans ((g.painted_setStyle _ _).mono (fun i j inside => ?_) fun _ => .inl)
    ((painted_putLine _ _ _ _ _).mono (fun i j inside => ?_) fun _ => .inr)
  · obtain ⟨columns, lines⟩ := inside
    dsimp only at columns lines
    omega
  · omega

theorem le_of_mem_columnOffsets {gap start : Nat} {widths : List Nat} {column : Nat × Nat}
    (member : column ∈ (columnOffsets gap start widths).zip widths) : start ≤ column.1 := by
  induction widths generalizing start with
  | nil => cases member
  | cons width rest ih =>
    rcases List.mem_cons.mp member with rfl | later
    · exact Nat.le_refl _
    · exact Nat.le_trans (by omega) (ih later)

theorem painted_putTableRow {a : Area} (single : a.height = 1) (widths : List Nat) (gap : Nat)
    (row : TableRow) :
    Painted (fun _ j => j = a.y) (fun _ => True) g (g.putTableRow a widths gap row) := by
  rw [putTableRow_eq]
  refine .trans ((g.painted_setStyle a row.style).mono (fun i j inside => ?_) fun _ _ => trivial)
    (.foldl (fun g item _ => ?_) _)
  · have line := inside.2
    omega
  · exact (g.painted_putTableCell a item).mono (fun i j place => place.2) fun _ _ => trivial

/-- The styles in the cells of a table. -/
def InCells (cells : List TableCell) (style : Style) : Prop :=
  ∃ cell ∈ cells, style = cell.style ∨ ∃ span ∈ cell.line, style = span.style

section
variable {g : Grid} {a : Area} {mark : TableCell} {rest : List TableCell} {style : Style}
  {first gap x y : Nat} {widths : List Nat}

theorem painted_cells (a : Area) (g : Grid) (start : Nat) (cells : List TableCell) :
    Painted (fun i _ => a.x + start ≤ i) (InCells cells) g
      ((cells.zip ((columnOffsets gap start widths).zip widths)).foldl (putTableCell a) g) := by
  refine .foldl (fun g item member => ?_) g
  obtain ⟨cell, column⟩ := List.of_mem_zip member
  have offset := le_of_mem_columnOffsets column
  exact (g.painted_putTableCell a item).mono (fun i j place => by omega)
    fun style styled => ⟨item.1, cell, styled⟩

theorem isBold_of_putTableRow (dull : style.emphasis.bold = false)
    (plain : ∀ style, InCells rest style → style.emphasis.bold = false) (behind : a.x + first ≤ x)
    (bold : (g.putTableRow a (first :: widths) gap ⟨mark :: rest, style⟩).IsBold x y) :
    g.IsBold x y := by
  have marked : (putTableCell a (g.setStyle a style) (mark, 0, first)).IsBold x y :=
    (painted_cells a _ (0 + first + gap) rest).isBold plain bold
  have away : (putTableCell a (g.setStyle a style) (mark, 0, first)).cell? x y =
      (g.setStyle a style).cell? x y :=
    (painted_putTableCell _ a _).cell?_eq (by dsimp only; omega)
  exact (g.painted_setStyle a style).isBold (fun _ same => same ▸ dull)
    ((isBold_congr away).mp marked)

/-- In a bold row, the cell right behind the first column is bold. -/
theorem isBold_putTableRow (bold : style.emphasis.bold = true) (apart : 0 < gap)
    (inside : a.Has (a.x + first) y) (shown : (g.cell? (a.x + first) y).isSome) :
    (g.putTableRow a (first :: widths) gap ⟨mark :: rest, style⟩).IsBold (a.x + first) y := by
  have marked : (putTableCell a (g.setStyle a style) (mark, 0, first)).cell? (a.x + first) y =
      (g.setStyle a style).cell? (a.x + first) y :=
    (painted_putTableCell _ a _).cell?_eq (by dsimp only; omega)
  have others : (g.putTableRow a (first :: widths) gap ⟨mark :: rest, style⟩).cell?
      (a.x + first) y = (putTableCell a (g.setStyle a style) (mark, 0, first)).cell?
        (a.x + first) y :=
    (painted_cells a _ (0 + first + gap) rest).cell?_eq (by omega)
  exact (isBold_congr (others.trans marked)).mpr (isBold_setStyle bold inside shown)

end

end Grid

end SessionMonitor.Screen
