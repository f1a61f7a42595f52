import Mathlib.Data.List.Forall2
import SessionMonitor.Screen.ExecutorPage
import SessionMonitor.Proofs.Text.Truncate

/-!
# Results in columns

A result has a row of texts for each row of data and a text for each of its columns. On the page of
the executor each text is truncated, and its column has room for what is left of it.
-/

namespace SessionMonitor

namespace Executor

theorem cells_eq (columns : List String) (row : Json.Fields) :
    cells columns row =
      columns.map fun column => ((Json.Fields.get? row column).map Json.cellText).getD "" := by
  refine List.map_congr_left fun column _ => ?_
  cases Json.Fields.get? row column <;> rfl

end Executor

namespace Screen.ExecutorPage

open Text (longest)

variable {columns : List String} {rows : List (List String)}

theorem columnWidth_eq (rows : List (List String)) (name : String) (k : Nat) :
    columnWidth rows (name, k) = min 32 (longest (name :: rows.filterMap (·[k]?))) := by
  rw [columnWidth, Text.foldl_longest]
  rfl

theorem getElem?_columnWidths (columns : List String) (rows : List (List String)) (k : Nat) :
    (columnWidths columns rows)[k]? = columns[k]?.map fun name => columnWidth rows (name, k) := by
  rw [columnWidths, List.getElem?_map, List.getElem?_zipIdx, Option.map_map, Nat.zero_add]
  rfl

theorem length_cellText_le {cells : List String} {text name : String} {k : Nat}
    (row : cells ∈ rows) (written : cells[k]? = some text) :
    (cellText text).length ≤ columnWidth rows (name, k) := by
  have member : text ∈ rows.filterMap (·[k]?) := List.mem_filterMap.mpr ⟨cells, row, written⟩
  have long := Text.le_longest (List.mem_cons_of_mem name member)
  rw [cellText, Text.length_truncate, columnWidth_eq, columnLimit]
  omega

theorem getElem?_resultTable (columns : List String) (i k : Nat) :
    ((resultTable columns rows).rows[i]?.bind fun row => row.cells[k]?) =
      (rows[i]?.bind fun cells => cells[k]?).map fun text => .ofText (cellText text) .plain := by
  rw [resultTable, List.getElem?_map]
  cases rows[i]? with
  | none => rfl
  | some cells => exact List.getElem?_map

/-- The executor keeps a text for each row and column of a result, and on its page every column has
room for its texts, each truncated to 32 characters. -/
theorem results_have_room (x : Executor) (columns : List String) (data : List Json.Fields) :
    ∃ rows : List (List String), (x.finish (.ok (.rows columns data))).output = .rows columns rows ∧
      List.Forall₂ (fun row cells => List.Forall₂ (fun name text =>
        text = ((Json.Fields.get? row name).map Json.cellText).getD "") columns cells) data rows ∧
      let table := resultTable columns rows
      ∀ (i k : Nat) (text : String), (rows[i]?.bind fun cells => cells[k]?) = some text → ∃ drawn width,
        (table.rows[i]?.bind fun row => row.cells[k]?) = some (.ofText drawn .plain) ∧
        table.widths[k]? = some width ∧ drawn = Text.truncate text 32 ∧ drawn.length ≤ width ∧
        (text.length ≤ 32 → drawn = text) := by
  refine ⟨data.map (Executor.cells columns), rfl, ?_, fun i k text written => ?_⟩
  · refine List.forall₂_map_right_iff.mpr (List.forall₂_same.mpr fun row _ => ?_)
    rw [Executor.cells_eq]
    exact List.forall₂_map_right_iff.mpr (List.forall₂_same.mpr fun name _ => rfl)
  · obtain ⟨cells, row, cell⟩ := Option.bind_eq_some_iff.mp written
    have member := List.mem_of_getElem? row
    obtain ⟨given, -, rfl⟩ := List.mem_map.mp member
    have place := cell
    rw [Executor.cells_eq, List.getElem?_map] at place
    obtain ⟨name, column, -⟩ := Option.map_eq_some_iff.mp place
    refine ⟨cellText text, columnWidth _ (name, k), ?_, ?_, rfl, length_cellText_le member cell,
      Text.truncate_of_le⟩
    · rw [getElem?_resultTable, written]
      rfl
    · exact (getElem?_columnWidths _ _ k).trans (by rw [column]; rfl)

/-- Two columns have one name, a row has a value under another name, and a text is too long. -/
theorem long_text_has_room :
    let long := "a very long text that is cut to thirty-two characters"
    let columns := ["Id", "Id", "Info"]
    let data : List Json.Fields := [[("Id", .ofNat 5), ("Note", .null)], [("Info", .string long)]]
    let rows := [["5", "5", ""], ["", "", long]]
    (Executor.initial.finish (.ok (.rows columns data))).output = .rows columns rows ∧
      (rows[1]?.bind fun cells => cells[2]?) = some long ∧
      ∃ drawn width, (resultTable columns rows).widths[2]? = some width ∧
        drawn = "a very long text that is cut ..." ∧ drawn.length ≤ width := by
  intro long columns data rows
  have output : (Executor.initial.finish (.ok (.rows columns data))).output =
      .rows columns rows := by decide +kernel
  obtain ⟨given, finished, -, room⟩ := results_have_room Executor.initial columns data
  obtain ⟨-, rfl⟩ := ExecutorOutput.rows.inj (output.symm.trans finished)
  obtain ⟨drawn, width, -, column, cut, fits, -⟩ := room 1 2 long rfl
  exact ⟨output, rfl, drawn, width, column, cut.trans (by decide +kernel), fits⟩

end Screen.ExecutorPage

end SessionMonitor
