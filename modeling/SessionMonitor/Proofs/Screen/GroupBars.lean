import Mathlib.Data.List.Forall2
import SessionMonitor.Screen.Dashboard
import SessionMonitor.Proofs.Text.Truncate

/-!
# Labels of groups

On the dashboard each group has a line with its label in a column, which is as wide as the longest
key, up to 16 characters. A group without a name is labelled in words that are not counted as a key.
So every label is whole or cut to 16 characters, but for this one, which is cut to the width of the
column.
-/

namespace SessionMonitor

theorem Text.exists_lt_length {texts : List String} {n : Nat} (long : n < longest texts) :
    ∃ s ∈ texts, n < s.length := by
  rw [longest] at long
  cases most : (texts.map String.length).max? with
  | none =>
    rw [most] at long
    cases long
  | some m =>
    obtain ⟨s, member, rfl⟩ := List.mem_map.mp (List.max?_mem most)
    rw [most] at long
    exact ⟨s, member, long⟩

namespace Screen.Dashboard

open Text (longest truncate)

variable {groups : Groups} {key : String} {width : Nat}

def groupName (key : String) : String :=
  if key = "" then "(none)" else key

/-- A name in at most 16 characters: whole, or cut, with dots in the last three places. -/
def brief (name : String) : List Char :=
  if name.length ≤ 16 then name.toList else name.toList.take 13 ++ ['.', '.', '.']

/-- A line that begins with a text in a column, with a blank on each side. -/
def Labelled (text : List Char) (width : Nat) (line : Line) : Prop :=
  text.length ≤ width ∧ ∃ label rest, line = label :: rest ∧
    label.text.toList = ' ' :: (text ++ List.replicate (width - text.length) ' ') ++ [' ']

/-! ### The column of labels -/

theorem labelWidth_eq (groups : Groups) :
    labelWidth groups = min 16 (longest (groups.entries.map (·.1))) := by
  rw [labelWidth, greatest, List.foldl_map, ← Text.foldl_longest, List.foldl_map]

theorem length_truncate_le (text : String) (width : Nat) :
    (truncate text width).toList.length ≤ width := by
  rw [String.length_toList, Text.length_truncate]
  exact Nat.min_le_right _ _

theorem toList_groupLabel (key : String) (width : Nat) :
    let text := (truncate (groupName key) width).toList
    (groupLabel key width).toList =
      ' ' :: (text ++ List.replicate (width - text.length) ' ') ++ [' '] := by
  simp [groupLabel, groupName, Text.padRight]

theorem labelled_groupLabel (key : String) (width : Nat) (style : Style) (rest : Line) :
    Labelled (truncate (groupName key) width).toList width
      (⟨groupLabel key width, style⟩ :: rest) :=
  ⟨length_truncate_le _ _, _, _, rfl, toList_groupLabel key width⟩

theorem Labelled.width_eq {text other : List Char} {column : Nat} {line : Line}
    (h : Labelled text width line) (same : Labelled other column line) : width = column := by
  obtain ⟨fits, label, rest, rfl, written⟩ := h
  obtain ⟨otherFits, _, _, begins, rewritten⟩ := same
  cases begins
  have length := congrArg List.length (written.symm.trans rewritten)
  simp at length
  omega

/-! ### Names in the column -/

/-- A key counts for the width of the column, so only the limit can cut it. -/
theorem toList_truncate_key (member : key ∈ groups.entries.map (·.1)) :
    (truncate key (labelWidth groups)).toList = brief key := by
  rw [labelWidth_eq, brief]
  rcases Text.le_width_or member 16 with fits | full
  · rw [Text.truncate_of_le fits, if_pos (by omega)]
  · rw [full]
    split
    · rename_i fits
      rw [Text.truncate_of_le fits]
    · rw [Text.toList_truncate_of_lt (by omega) (by decide)]

theorem toList_truncate_nameless (room : 6 ≤ width) :
    (truncate "(none)" width).toList = brief "(none)" := by
  rw [Text.truncate_of_le room]
  decide

theorem labelled_of_mem {entry : String × Nat} (member : entry ∈ groups.entries) (style : Style)
    (rest : Line) :
    Labelled (if entry.1 = "" then (truncate "(none)" (labelWidth groups)).toList
        else brief entry.1) (labelWidth groups)
      (⟨groupLabel entry.1 (labelWidth groups), style⟩ :: rest) := by
  have labelled := labelled_groupLabel entry.1 (labelWidth groups) style rest
  split
  · rename_i nameless
    rwa [groupName, if_pos nameless] at labelled
  · rename_i named
    rwa [groupName, if_neg named, toList_truncate_key (List.mem_map_of_mem member)] at labelled

/-! ### Lines -/

section
variable {P : String × Nat → Line → Prop} {room : Nat} {color : Color}

theorem forall₂_groupLines (each : ∀ entry ∈ groups.entries, ∀ style rest,
      P entry (⟨groupLabel entry.1 (labelWidth groups), style⟩ :: rest)) :
    List.Forall₂ P groups.entries (groupLines groups room color) :=
  List.forall₂_map_right_iff.mpr (List.forall₂_same.mpr fun entry member => each entry member _ _)

theorem exists_line (all : List.Forall₂ P groups.entries (groupLines groups room color))
    {entry : String × Nat} (member : entry ∈ groups.entries) :
    ∃ style rest, P entry (⟨groupLabel entry.1 (labelWidth groups), style⟩ :: rest) :=
  ⟨_, _, List.forall₂_same.mp (List.forall₂_map_right_iff.mp all) entry member⟩

/-- The label of the nameless group is as wide as the column, so `(none)` needs a key of its
length. -/
theorem exists_long_key {width : Nat}
    (promised : List.Forall₂ (fun entry line => Labelled (brief (groupName entry.1)) width line)
      groups.entries (groupLines groups room color))
    (nameless : ∃ entry ∈ groups.entries, entry.1 = "") :
    ∃ entry ∈ groups.entries, 6 ≤ entry.1.length := by
  obtain ⟨entry, member, nameless⟩ := nameless
  obtain ⟨style, rest, labelled⟩ := exists_line promised member
  have same : labelWidth groups = width := (labelled_of_mem member style rest).width_eq labelled
  have whole : 6 ≤ width := by
    have fits := labelled.1
    rwa [nameless] at fits
  rw [labelWidth_eq] at same
  obtain ⟨key, among, long⟩ :=
    Text.exists_lt_length (show 5 < longest (groups.entries.map (·.1)) by omega)
  obtain ⟨found, present, rfl⟩ := List.mem_map.mp among
  exact ⟨found, present, long⟩

theorem labelled_groupName (told : (∃ entry ∈ groups.entries, entry.1 = "") →
      ∃ entry ∈ groups.entries, 6 ≤ entry.1.length) {entry : String × Nat}
    (member : entry ∈ groups.entries) (style : Style) (rest : Line) :
    Labelled (brief (groupName entry.1)) (labelWidth groups)
      (⟨groupLabel entry.1 (labelWidth groups), style⟩ :: rest) := by
  have labelled := labelled_of_mem member style rest
  rw [groupName]
  split at labelled
  · rename_i nameless
    obtain ⟨other, present, long⟩ := told ⟨entry, member, nameless⟩
    have most := Text.le_longest (List.mem_map_of_mem (f := (·.1)) present)
    have wide : 6 ≤ labelWidth groups := by
      rw [labelWidth_eq]
      omega
    rwa [if_pos nameless, ← toList_truncate_nameless wide]
  · rename_i named
    rwa [if_neg named]

end

/-- Every group has a line with its label, in a column as wide as the longest key. `(none)` is whole
in it if and only if some key is as long. -/
theorem groups_are_told_by_labels_iff (groups : Groups) (room : Nat) (color : Color) :
    let lines := groupLines groups room color
    let width := min 16 (longest (groups.entries.map (·.1)))
    List.Forall₂ (fun entry line => Labelled (if entry.1 = "" then (truncate "(none)" width).toList
      else brief entry.1) width line) groups.entries lines ∧
    ((∃ width, List.Forall₂ (fun entry line => Labelled (brief (groupName entry.1)) width line)
        groups.entries lines) ↔
      ((∃ entry ∈ groups.entries, entry.1 = "") → ∃ entry ∈ groups.entries, 6 ≤ entry.1.length)) := by
  intro lines width
  refine ⟨?_, fun ⟨_, promised⟩ => exists_long_key promised, fun told => ⟨labelWidth groups, ?_⟩⟩
  · have column : width = labelWidth groups := (labelWidth_eq groups).symm
    rw [column]
    exact forall₂_groupLines fun _ member => labelled_of_mem member
  · exact forall₂_groupLines fun _ member => labelled_groupName told member

/-- No key has the six characters of `(none)`. -/
example :
    let groups : Groups := ⟨[("app", 1), ("", 1)]⟩
    groups.entries.map (fun entry => groupLabel entry.1 (labelWidth groups)) =
      [" app ", " (no "] := by
  decide +kernel

end Screen.Dashboard

end SessionMonitor
