import Mathlib.Algebra.GroupWithZero.Nat
import Mathlib.Data.List.Forall2
import SessionMonitor.Screen.PlanTable
import SessionMonitor.Proofs.Text.Trimming
import SessionMonitor.Proofs.Text.Truncate

/-!
# Plans in columns

In the lines of a plan, that of its column names and those of its rows, each column begins at the
same place, and each text stands whole in its column or is cut to its width. Only blanks at the end
of a line are missing.
-/

namespace SessionMonitor.Screen.PlanTable

open Text (AllBlank isBlank longest truncate)

/-! ### Lines of columns -/

/-- A text in its column: whole and filled up with blanks, or cut, with dots in the last three
places. -/
def shown (text : String) (width : Nat) : List Char :=
  if text.length ≤ width then text.toList ++ List.replicate (width - text.length) ' '
  else text.toList.take (width - 3) ++ ['.', '.', '.']

/-- Where a column begins: behind the columns before it, with two blanks after each. -/
def offset (widths : List Nat) (k : Nat) : Nat :=
  ((widths.take k).map (· + 2)).sum

/-- A line of columns with a text in each. -/
structure InColumns (widths : List Nat) (texts : List String) (line : List Char) : Prop where
  length : line.length = offset widths widths.length - 2
  text : ∀ k text width, texts[k]? = some text → widths[k]? = some width →
    (line.drop (offset widths k)).take width = shown text width
  gap : ∀ k width, widths[k]? = some width → k + 1 < widths.length →
    (line.drop (offset widths k + width)).take 2 = [' ', ' ']

/-- A line of columns without the blanks at its end. -/
structure Aligned (widths : List Nat) (texts : List String) (line : String) : Prop where
  columns : ∃ after, AllBlank after ∧ InColumns widths texts (line.toList ++ after)
  ended : ∀ c ∈ line.toList.getLast?, isBlank c = false

theorem offset_cons (width : Nat) (widths : List Nat) (k : Nat) :
    offset (width :: widths) (k + 1) = width + 2 + offset widths k := by
  rw [offset, List.take_succ_cons, List.map_cons, List.sum_cons]
  rfl

theorem intercalate_cons (part : List Char) (parts : List (List Char)) :
    [' ', ' '].intercalate (part :: parts) =
      part ++ if parts = [] then [] else [' ', ' '] ++ [' ', ' '].intercalate parts := by
  split
  · rename_i last
    rw [last, List.intercalate_singleton, List.append_nil]
  · rename_i more
    rw [List.intercalate_cons_of_ne_nil more, List.append_assoc]

theorem drop_intercalate (parts : List (List Char)) (k : Nat) :
    ([' ', ' '].intercalate parts).drop (offset (parts.map List.length) k) =
      [' ', ' '].intercalate (parts.drop k) := by
  induction parts generalizing k with
  | nil => simp
  | cons part rest ih =>
    cases k with
    | zero => rfl
    | succ k =>
      rw [List.map_cons, offset_cons, intercalate_cons, List.drop_succ_cons, Nat.add_assoc,
        ← List.drop_drop, List.drop_left]
      split
      · rename_i last
        rw [last, List.drop_nil, List.drop_nil]
        rfl
      · rw [← List.drop_drop, ← ih]
        rfl

theorem length_intercalate (parts : List (List Char)) :
    ([' ', ' '].intercalate parts).length =
      offset (parts.map List.length) (parts.map List.length).length - 2 := by
  induction parts with
  | nil => rfl
  | cons part rest ih =>
    rw [List.map_cons, List.length_cons, offset_cons, intercalate_cons]
    split
    · rename_i last
      rw [last]
      simp [offset]
    · rename_i more
      -- A gap is taken off behind the last column, so it matters that there is one.
      obtain ⟨next, others, rfl⟩ := List.exists_cons_of_ne_nil more
      rw [List.map_cons, List.length_cons, offset_cons] at ih ⊢
      rw [List.length_append, List.length_append, ih]
      simp
      omega

theorem drop_offset {parts : List (List Char)} {part : List Char} {k : Nat}
    (found : parts[k]? = some part) :
    ([' ', ' '].intercalate parts).drop (offset (parts.map List.length) k) =
      part ++ if parts.drop (k + 1) = [] then []
        else [' ', ' '] ++ [' ', ' '].intercalate (parts.drop (k + 1)) := by
  obtain ⟨inside, rfl⟩ := List.getElem?_eq_some_iff.mp found
  rw [drop_intercalate, List.drop_eq_getElem_cons inside, intercalate_cons]

/-! ### A row of texts -/

section
variable (names : List String) (text : String → String) (width : String → Nat)

def untrimmed : List Char :=
  [' ', ' '].intercalate (names.map fun name => shown (text name) (width name))

theorem length_shown {text : String} {width : Nat} (room : text.length ≤ width ∨ 3 < width) :
    (shown text width).length = width := by
  rw [shown]
  split
  · rw [List.length_append, List.length_replicate, String.length_toList]
    omega
  · rw [List.length_append, List.length_take, String.length_toList]
    simp
    omega

theorem padRight_truncate {text : String} {width : Nat} (room : text.length ≤ width ∨ 3 < width) :
    (Text.padRight (truncate text width) width).toList = shown text width := by
  rw [Text.padRight, String.toList_ofList, String.length_toList, Text.length_truncate, shown]
  split
  · rename_i fits
    rw [Text.truncate_of_le fits, Nat.min_eq_left fits]
  · rename_i long
    rw [Text.toList_truncate_of_lt (by omega) (by omega), Nat.min_eq_right (by omega), Nat.sub_self,
      List.replicate_zero, List.append_nil]

variable {names text width}
  (room : ∀ name ∈ names, (text name).length ≤ width name ∨ 3 < width name)
include room

theorem formatRow_eq : formatRow (names.map width) (names.map text) =
    Text.trimEnd (String.ofList (untrimmed names text width)) := by
  rw [formatRow, List.zip_map', List.map_map, untrimmed]
  refine congrArg Text.trimEnd (String.toList_inj.mp ?_)
  rw [String.toList_intercalate, List.map_map]
  refine (congrArg _ (List.map_congr_left fun name member => ?_)).trans String.toList_ofList.symm
  exact padRight_truncate (room name member)

theorem inColumns_untrimmed :
    InColumns (names.map width) (names.map text) (untrimmed names text width) := by
  let parts := names.map fun name => shown (text name) (width name)
  have widths : names.map width = parts.map List.length := by
    rw [List.map_map]
    exact List.map_congr_left fun name member => (length_shown (room name member)).symm
  -- What stands from the beginning of a column on: its text and the gap behind it are read off here.
  have place : ∀ k column, (names.map width)[k]? = some column →
      ∃ name ∈ names[k]?, column = (shown (text name) (width name)).length ∧
        (untrimmed names text width).drop (offset (names.map width) k) =
          shown (text name) (width name) ++ if parts.drop (k + 1) = [] then []
            else [' ', ' '] ++ [' ', ' '].intercalate (parts.drop (k + 1)) := by
    intro k column widthAt
    rw [List.getElem?_map] at widthAt
    obtain ⟨name, found, rfl⟩ := Option.map_eq_some_iff.mp widthAt
    refine ⟨name, found, (length_shown (room name (List.mem_of_getElem? found))).symm, ?_⟩
    rw [widths]
    exact drop_offset (by rw [List.getElem?_map, found]; rfl)
  constructor
  · rw [widths]
    exact length_intercalate _
  · intro k written column textAt widthAt
    obtain ⟨name, found, rfl, begins⟩ := place k column widthAt
    rw [List.getElem?_map, found] at textAt
    cases textAt
    rw [begins, List.take_left, length_shown (room name (List.mem_of_getElem? found))]
  · intro k column widthAt more
    obtain ⟨name, found, rfl, begins⟩ := place k column widthAt
    have next : parts.drop (k + 1) ≠ [] := by
      rw [List.length_map] at more
      simpa [parts] using more
    rw [← List.drop_drop, begins, List.drop_left, if_neg next]
    rfl

theorem aligned_formatRow : Aligned (names.map width) (names.map text)
    (formatRow (names.map width) (names.map text)) := by
  obtain ⟨after, whole, blank, ended⟩ := Text.exists_blanks_behind (untrimmed names text width)
  have line : (formatRow (names.map width) (names.map text)).toList =
      Text.dropTrailing isBlank (untrimmed names text width) := by
    rw [formatRow_eq room, Text.trimEnd, String.toList_ofList, String.toList_ofList]
  constructor
  · refine ⟨after, blank, ?_⟩
    rw [line, ← whole]
    exact inColumns_untrimmed room
  · rw [line]
    exact ended

end

/-! ### Plans -/

theorem cell_eq (row : Json.Fields) (name : String) :
    cell row name = ((Json.Fields.get? row name).map Json.cellText).getD "" := by
  unfold cell
  cases Json.Fields.get? row name <;> rfl

theorem columns_eq (plan : List Json.Fields) : columns plan = (plan.headD []).map Prod.fst := by
  cases plan <;> rfl

theorem columnWidth_eq (plan : List Json.Fields) (name : String) :
    columnWidth plan name = min 24 (longest (name :: plan.map fun row => cell row name)) := by
  rw [columnWidth, Text.foldl_longest]
  rfl

/-- A column has room for its name and for the text of each row. Only a text of more than 24
characters is cut. -/
theorem columnWidth_room {plan : List Json.Fields} {text name : String}
    (written : text ∈ name :: plan.map fun row => cell row name) :
    text.length ≤ columnWidth plan name ∨ 3 < columnWidth plan name := by
  rw [columnWidth_eq]
  refine (Text.le_width_or written 24).imp_right fun full => ?_
  rw [full]
  decide

/-- Every row of a plan gives one line, in which each text stands at the place of its column: whole,
or cut to the width of at most 24. -/
theorem plans_stand_in_columns (plan : List Json.Fields) :
    let names := (plan.headD []).map Prod.fst
    let text (row : Json.Fields) (name : String) :=
      ((Json.Fields.get? row name).map Json.cellText).getD ""
    let widths := names.map fun name => min 24 (longest (name :: plan.map fun row => text row name))
    Aligned widths names (table plan).1 ∧
      List.Forall₂ (fun row line => Aligned widths (names.map (text row)) line) plan
        (table plan).2 := by
  intro names text widths
  have named : names = columns plan := (columns_eq plan).symm
  have same : cell = text := funext fun row => funext (cell_eq row)
  have width : widths = (columns plan).map (columnWidth plan) := by
    rw [columns_eq]
    refine List.map_congr_left fun name _ => ?_
    rw [columnWidth_eq, same]
  rw [width, named, ← same]
  constructor
  · have heading : Aligned ((columns plan).map (columnWidth plan)) ((columns plan).map id)
        (formatRow ((columns plan).map (columnWidth plan)) ((columns plan).map id)) :=
      aligned_formatRow fun name _ => columnWidth_room List.mem_cons_self
    rwa [List.map_id] at heading
  · refine List.forall₂_map_right_iff.mpr (List.forall₂_same.mpr fun row member => ?_)
    refine aligned_formatRow fun name _ => columnWidth_room ?_
    exact List.mem_cons_of_mem _ (List.mem_map_of_mem member)

/-- The second row has no type, and nothing is written for it. -/
example : table [
    [("id", .ofNat 1), ("table", .string "orders"), ("type", .string "ALL")],
    [("id", .ofNat 2), ("table", .null)]] =
      ("id  table   type", ["1   orders  ALL", "2   NULL"]) := by
  decide +kernel

end SessionMonitor.Screen.PlanTable
