import Mathlib.Data.List.Forall2
import SessionMonitor.Proofs.Session.Naming

/-!
# Spellings

How a row spells its columns makes no difference, and neither do the fields that spell no column nor
the order in which the fields stand. Lists of rows that differ in nothing else give the same
snapshot or are refused for the same fault.
-/

namespace SessionMonitor

namespace Row

/-- The keys that mean the same. -/
def synonyms : List (List String) := [
  ["id", "Id", "ID"], ["user", "User"], ["host", "Host"], ["db", "Db", "DB"],
  ["command", "Command"], ["time", "Time"], ["state", "State"], ["info", "Info"],
  ["cpu", "CPU", "Cpu"], ["memory", "Memory"]]

/-- Fields that say the same: the same values under keys that mean the same, in any order, among
keys that mean nothing. -/
inductive Respelt : Json.Fields → Json.Fields → Prop where
  | nothing : Respelt [] []
  | column {fields other : Json.Fields} {key key' : String} {value : Json} {group : List String}
    (known : group ∈ synonyms) (spells : key ∈ group) (spells' : key' ∈ group)
    (rest : Respelt fields other) : Respelt ((key, value) :: fields) ((key', value) :: other)
  | dropped {fields other : Json.Fields} {key : String} {value : Json}
    (foreign : ∀ group ∈ synonyms, key ∉ group) (rest : Respelt fields other) :
    Respelt ((key, value) :: fields) other
  | added {fields other : Json.Fields} {key : String} {value : Json}
    (foreign : ∀ group ∈ synonyms, key ∉ group) (rest : Respelt fields other) :
    Respelt fields ((key, value) :: other)
  | moved {fields other written : Json.Fields} (order : written.Perm fields)
    (rest : Respelt fields other) : Respelt written other

def Single (fields : Json.Fields) : Prop :=
  ∀ group ∈ synonyms, (fields.map (·.1)).countP group.contains ≤ 1

variable {fields other : Json.Fields}

/-! ### Keys and columns -/

theorem synonyms_eq : synonyms = Column.all.map Column.spellings := rfl

theorem mem_synonyms_iff {group : List String} :
    group ∈ synonyms ↔ ∃ column : Column, column.spellings = group := by
  rw [synonyms_eq, List.mem_map]
  refine exists_congr fun column => and_iff_right ?_
  cases column <;> decide

theorem ofKey?_of_foreign {key : String} (foreign : ∀ group ∈ synonyms, key ∉ group) :
    Column.ofKey? key = none := by
  refine Option.eq_none_iff_forall_ne_some.mpr fun column found => ?_
  exact foreign _ (mem_synonyms_iff.mpr ⟨column, rfl⟩) (Column.mem_spellings_of_ofKey? found)

theorem Single.valuesIn (single : Single fields) (column : Column) :
    (column.valuesIn fields).length ≤ 1 := by
  rw [Column.valuesIn, List.length_map]
  have once := single _ (mem_synonyms_iff.mpr ⟨column, rfl⟩)
  rwa [List.countP_map, List.countP_eq_length_filter] at once

/-! ### Rows -/

theorem Respelt.valuesIn (respelt : Respelt fields other) (column : Column) :
    (column.valuesIn fields).Perm (column.valuesIn other) := by
  induction respelt with
  | nothing => exact .refl _
  | column known spells spells' _ ih =>
    obtain ⟨spelt, rfl⟩ := mem_synonyms_iff.mp known
    rw [Column.valuesIn_cons, Column.valuesIn_cons, Column.ofKey?_of_mem_spellings spells,
      Column.ofKey?_of_mem_spellings spells']
    split
    · exact ih.cons _
    · exact ih
  | dropped foreign _ ih =>
    rw [Column.valuesIn_cons, ofKey?_of_foreign foreign, if_neg nofun]
    exact ih
  | added foreign _ ih =>
    rw [Column.valuesIn_cons, ofKey?_of_foreign foreign, if_neg nofun]
    exact ih
  | moved order _ ih => exact ((order.filter _).map _).trans ih

theorem firsts_of_respelt (single : Single fields) (respelt : Respelt fields other) :
    firsts fields = firsts other := by
  funext column
  have same := respelt.valuesIn column
  have short := single.valuesIn column
  unfold firsts
  match values : column.valuesIn fields with
  | [] =>
    rw [values] at same
    rw [same.nil_eq]
  | [value] =>
    rw [values] at same
    rw [List.singleton_perm.mp same]
  | _ :: _ :: _ =>
    rw [values] at short
    simp at short

theorem sessionOf_object_of_single (single : ∀ column, (Column.valuesIn column fields).length ≤ 1) :
    sessionOf (.object fields) = (firsts fields).session := by
  rw [sessionOf, ofFields_of_single single]
  rfl

theorem sessionOf_of_respelt (single : Single fields) (respelt : Respelt fields other) :
    sessionOf (.object fields) = sessionOf (.object other) := by
  have single' : ∀ column, (Column.valuesIn column other).length ≤ 1 := fun column =>
    (respelt.valuesIn column).length_eq ▸ single.valuesIn column
  rw [sessionOf_object_of_single single.valuesIn, sessionOf_object_of_single single',
    firsts_of_respelt single respelt]

end Row

namespace Snapshot

/-- Objects that say the same, in which no column is given under two spellings. -/
def RespeltRow (row other : Json) : Prop :=
  ∃ fields fields', row = .object fields ∧ other = .object fields' ∧ Row.Single fields ∧
    Row.Respelt fields fields'

theorem sessionsFrom_of_respelt {rows others : List Json} (index : Nat)
    (respelt : List.Forall₂ RespeltRow rows others) :
    sessionsFrom index rows = sessionsFrom index others := by
  induction respelt generalizing index with
  | nil => rfl
  | cons first _ ih =>
    obtain ⟨fields, fields', rfl, rfl, single, respelt⟩ := first
    rw [sessionsFrom, sessionsFrom, Row.sessionOf_of_respelt single respelt, ih]

/-- Lists of rows that say the same come to the same: the same snapshot, or the same refusal. -/
theorem spelling_is_not_seen {rows others : List Json}
    (respelt : List.Forall₂ RespeltRow rows others) (time : Timestamp) :
    ofJson (.array rows) time = ofJson (.array others) time := by
  show (sessionsFrom 0 rows).bind _ = (sessionsFrom 0 others).bind _
  rw [sessionsFrom_of_respelt 0 respelt]

/-- A row as one server spells it. -/
def rowOfOne (given : Json) : Json.Fields :=
  [("Host", .string "db1"), ("Id", given), ("uptime", .null)]

def rowOfOther (given : Json) : Json.Fields :=
  [("ID", given), ("Zone", .bool true), ("host", .string "db1")]

theorem respeltRow_of_one (given : Json) :
    RespeltRow (.object (rowOfOne given)) (.object (rowOfOther given)) := by
  have id : ["id", "Id", "ID"] ∈ Row.synonyms := by decide
  have host : ["host", "Host"] ∈ Row.synonyms := by decide
  refine ⟨_, _, rfl, rfl, ?_, .moved (.swap _ _ _) (.column id (by decide) (by decide) ?_)⟩
  · show ∀ group ∈ Row.synonyms, ["Host", "Id", "uptime"].countP group.contains ≤ 1
    decide
  · exact .added (by decide) (.column host (by decide) (by decide) (.dropped (by decide) .nothing))

/-- Two servers whose second row is spoilt are refused for the same id in the same row. -/
theorem two_servers_are_read_alike :
    List.Forall₂ RespeltRow
      [.object (rowOfOne (.number (.integer 7))), .object (rowOfOne (.string "x"))]
      [.object (rowOfOther (.number (.integer 7))), .object (rowOfOther (.string "x"))] ∧
    ofJson (.array
      [.object (rowOfOther (.number (.integer 7))), .object (rowOfOther (.string "x"))]) 0 =
      .error (.row 1 (.invalidId "\"x\"")) := by
  have respelt : List.Forall₂ RespeltRow
      [.object (rowOfOne (.number (.integer 7))), .object (rowOfOne (.string "x"))]
      [.object (rowOfOther (.number (.integer 7))), .object (rowOfOther (.string "x"))] :=
    .cons (respeltRow_of_one _) (.cons (respeltRow_of_one _) .nil)
  refine ⟨respelt, ?_⟩
  rw [← spelling_is_not_seen respelt 0]
  rfl

end Snapshot

end SessionMonitor
