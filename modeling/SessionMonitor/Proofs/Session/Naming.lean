import SessionMonitor.Proofs.Decimal.Words
import SessionMonitor.Session.Row

/-!
# Rows that name a session

What reading fills in for the columns of a row, and which rows name a session: the id alone decides,
and that no column is given twice.
-/

namespace SessionMonitor

namespace Column

/-- The values that the fields of an object give for a column, under any of its spellings. -/
def valuesIn (column : Column) (fields : Json.Fields) : List Json :=
  (fields.filter fun field => column.spellings.contains field.1).map (·.2)

theorem mem_spellings_of_ofKey? {key : String} {column : Column}
    (found : ofKey? key = some column) : key ∈ column.spellings := by
  simpa using List.find?_some found

theorem ofKey?_of_mem_spellings {key : String} {column : Column} (spelt : key ∈ column.spellings) :
    ofKey? key = some column := by
  have each : ∀ column ∈ all, ∀ key ∈ column.spellings, ofKey? key = some column := by decide
  refine each column ?_ key spelt
  cases column <;> decide

theorem ofKey?_eq_some_iff {key : String} {column : Column} :
    ofKey? key = some column ↔ key ∈ column.spellings :=
  ⟨mem_spellings_of_ofKey?, ofKey?_of_mem_spellings⟩

theorem valuesIn_cons (column : Column) (key : String) (value : Json) (fields : Json.Fields) :
    column.valuesIn ((key, value) :: fields) =
      if ofKey? key = some column then value :: column.valuesIn fields
      else column.valuesIn fields := by
  simp only [valuesIn, List.filter_cons, List.contains_iff_mem, ofKey?_eq_some_iff]
  split <;> rfl

end Column

namespace Row

variable {row filled : Row} {fields : Json.Fields}

/-! ### Columns -/

theorem set_toList_append (column : Column) (value : Json) (values : List Json)
    (free : row column = none) :
    (row.set column value column).toList ++ values = (row column).toList ++ value :: values := by
  simp [set, free]

theorem set_other {column other : Column} (value : Json) (different : other ≠ column) :
    row.set column value other = row other :=
  if_neg different

theorem toList_inj {first second : Option Json} (same : first.toList = second.toList) :
    first = second := by
  cases first <;> cases second <;> simp_all

/-- Reading the fields of an object fills each column with the only value that there is for it. -/
theorem ofFields_eq_ok_iff :
    ofFields row fields = .ok filled ↔
      ∀ column, (row column).toList ++ column.valuesIn fields = (filled column).toList := by
  induction fields generalizing row with
  | nil =>
    simp only [ofFields, Column.valuesIn, List.filter_nil, List.map_nil, List.append_nil]
    constructor
    · rintro ⟨⟩ column
      rfl
    · intro same
      have : row = filled := funext fun column => toList_inj (same column)
      rw [this]
  | cons field rest ih =>
    obtain ⟨key, value⟩ := field
    simp only [Column.valuesIn_cons]
    unfold ofFields
    split
    · rename_i unknown
      simp [unknown, ih]
    · rename_i column found
      split
      · rename_i taken
        -- The column holds a value already, and a second one has no place in `filled`.
        obtain ⟨earlier, held⟩ := Option.isSome_iff_exists.mp taken
        refine ⟨nofun, fun same => ?_⟩
        have two := congrArg List.length (same column)
        have one := Option.length_toList_le (o := filled column)
        rw [held, if_pos found, List.length_append, List.length_cons] at two
        simp at two
        omega
      · rename_i free
        replace free : row column = none := by simpa using free
        rw [ih]
        refine forall_congr' fun other => ?_
        by_cases same : other = column
        · rw [same, if_pos found, set_toList_append column value _ free]
        · have apart : Column.ofKey? key ≠ some other := by
            rw [found]
            exact fun twice => same (Option.some.inj twice).symm
          rw [if_neg apart, set_other value same]

/-! ### Rows that name a session -/

/-- The values that name a session: whole numbers of 64 bits, and texts that write one. -/
inductive NamesId : Json → SessionId → Prop where
  | number {n : Int} {id : SessionId} (same : n = id.value.toNat) :
    NamesId (.number (.integer n)) id
  | text {words : String} {id : SessionId} (writes : Decimal.Writes words.toList id.value.toNat) :
    NamesId (.string words) id

/-- A row that names a session: an object with no column given twice, and with an id. -/
def Names (value : Json) (id : SessionId) : Prop :=
  ∃ fields, value = .object fields ∧ (∀ column, (Column.valuesIn column fields).length ≤ 1) ∧
    ∃ given ∈ Column.id.valuesIn fields, NamesId given id

theorem number_word?_eq_some_iff {n : Int} {word : UInt64} :
    (Json.Number.integer n).word? = some word ↔ n = word.toNat := by
  have bound : word.toNat < UInt64.size := word.toNat_lt
  unfold Json.Number.word?
  dsimp only
  constructor
  · intro found
    split at found
    · rename_i bounds
      obtain rfl := Option.some.inj found
      rw [UInt64.toNat_ofNat_of_lt' (by omega)]
      omega
    · cases found
  · rintro rfl
    rw [if_pos (by omega), Int.toNat_natCast, UInt64.ofNat_toNat]

theorem idOf?_eq_some_iff {value : Json} {id : SessionId} :
    idOf? value = some id ↔ NamesId value id := by
  constructor
  · intro found
    unfold idOf? at found
    split at found
    · rename_i n
      obtain ⟨word, written, rfl⟩ := Option.map_eq_some_iff.mp found
      cases n with
      | integer n => exact .number (number_word?_eq_some_iff.mp written)
      | double x => cases written
    · obtain ⟨word, written, rfl⟩ := Option.map_eq_some_iff.mp found
      exact .text (Decimal.trimmedWord?_eq_some_iff.mp written)
    · cases found
  · rintro (same | writes)
    · rw [idOf?, number_word?_eq_some_iff.mpr same]
      rfl
    · rw [idOf?, Decimal.trimmedWord?_eq_some_iff.mpr writes]
      rfl

theorem id_eq_ok_iff {id : SessionId} :
    row.id = .ok id ↔ ∃ given, row .id = some given ∧ NamesId given id := by
  unfold Row.id
  constructor
  · intro read
    split at read
    · cases read
    · cases read
    · rename_i given _ held
      split at read
      · rename_i found
        cases read
        exact ⟨given, held, idOf?_eq_some_iff.mp found⟩
      · cases read
  · rintro ⟨given, held, names⟩
    have found := idOf?_eq_some_iff.mpr names
    rw [held]
    cases names <;> simp [found]

theorem session_eq_ok_iff {id : SessionId} :
    (∃ p, row.session = .ok p ∧ p.id = id) ↔ row.id = .ok id := by
  unfold Row.session
  cases read : row.id with
  | error fault => simp [bind, Except.bind]
  | ok other => simp [bind, Except.bind, pure, Except.pure]

theorem ofFields_empty_iff :
    ofFields empty fields = .ok filled ↔
      ∀ column, column.valuesIn fields = (filled column).toList :=
  ofFields_eq_ok_iff

def firsts (fields : Json.Fields) : Row :=
  fun column => (column.valuesIn fields).head?

theorem ofFields_of_single (single : ∀ column, (Column.valuesIn column fields).length ≤ 1) :
    ofFields empty fields = .ok (firsts fields) := by
  rw [ofFields_empty_iff]
  intro column
  have short := single column
  unfold firsts
  match values : column.valuesIn fields with
  | [] => rfl
  | [value] => rfl
  | first :: second :: rest =>
    rw [values] at short
    simp at short

theorem names_iff {value : Json} {id : SessionId} :
    Names value id ↔ ∃ p, sessionOf value = .ok p ∧ p.id = id := by
  constructor
  · rintro ⟨fields, rfl, single, given, held, names⟩
    have filled := ofFields_of_single single
    have first := (ofFields_empty_iff.mp filled .id)
    rw [first, Option.mem_toList] at held
    obtain ⟨p, read, same⟩ := session_eq_ok_iff.mpr (id_eq_ok_iff.mpr ⟨given, held, names⟩)
    refine ⟨p, ?_, same⟩
    rw [sessionOf, filled]
    exact read
  · rintro ⟨p, read, rfl⟩
    unfold sessionOf at read
    split at read
    · rename_i fields
      cases filled : ofFields empty fields with
      | error fault =>
        rw [filled] at read
        cases read
      | ok row =>
        rw [filled] at read
        have columns := ofFields_empty_iff.mp filled
        obtain ⟨given, held, names⟩ := id_eq_ok_iff.mp (session_eq_ok_iff.mp ⟨p, read, rfl⟩)
        refine ⟨fields, rfl, fun column => ?_, given, ?_, names⟩
        · rw [columns]
          exact Option.length_toList_le
        · rw [columns, Option.mem_toList]
          exact held
    · cases read

theorem forall_not_names_iff {value : Json} :
    (∀ id, ¬Names value id) ↔ ∃ fault, sessionOf value = .error fault := by
  simp only [names_iff]
  cases sessionOf value <;> simp

end Row

end SessionMonitor
