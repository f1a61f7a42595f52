import SessionMonitor.Proofs.Decimal.Wording
import SessionMonitor.Proofs.Session.Grammar
import SessionMonitor.Wire.Records

/-!
# Sessions in canonical form

What is read from a session list has measures that make sense, texts with something in them and
times in words only where they are no numbers. Written as JSON it is read back as it is.
-/

namespace SessionMonitor

/-- A column that may be empty says something if it holds a text. -/
def Inked (text : Option String) : Prop :=
  ∀ words, text = some words → ∃ c ∈ words.toList, Text.isBlank c = false

def Elapsed.Canonical (time : Elapsed) : Prop :=
  ∀ words, time = .text words → Decimal.Wording words.toList

/-- The form in which sessions are kept. -/
structure Session.Canonical (p : Session) : Prop where
  db : Inked p.db
  time : p.time.Canonical
  state : Inked p.state
  info : Inked p.info
  cpu : p.cpu.isFinite = true ∧ 0.0 ≤ p.cpu
  memory : p.memory.isFinite = true ∧ 0.0 ≤ p.memory

/-- An object with the fields that are written of a session, in any order. -/
def Session.WrittenAs (p : Session) (row : Json) : Prop :=
  ∃ fields written, row = .object fields ∧ p.json = .object written ∧ fields.Perm written

namespace Row

variable {row : Row} {p : Session}

/-! ### Columns as they are read -/

theorem inked_inked? (row : Row) (column : Column) : Inked (row.inked? column) := by
  intro words found
  exact Text.hasInk_iff.mp (Option.filter_eq_some_iff.mp found).2

theorem isMeasure_iff {x : Float} : isMeasure x = true ↔ x.isFinite = true ∧ 0.0 ≤ x := by
  simp [isMeasure]

theorem isMeasure_measure (row : Row) (column : Column) :
    isMeasure (row.measure column) = true := by
  unfold measure
  cases kept : ((row column).bind numberOf?).filter isMeasure with
  | none => decide
  | some x => exact (Option.filter_eq_some_iff.mp kept).2

theorem wording_trim {text : String} (ink : Text.hasInk text = true)
    (wordless : Decimal.trimmedWord? text = none) : Decimal.Wording (Text.trim text).toList := by
  have trimmed := Text.trimmed_trimChars text.toList
  rw [Text.trim, String.toList_ofList]
  refine ⟨Text.trimChars_ne_nil ink, trimmed, fun word writes => ?_⟩
  have found : Decimal.trimmedWord? text = some word :=
    (Decimal.writes_iff_of_trimmed trimmed).mp writes
  rw [wordless] at found
  cases found

theorem canonical_timeOf (value : Json) : (timeOf value).Canonical := by
  intro words said
  unfold timeOf at said
  split at said
  · cases said
  · split at said
    · cases said
    · rename_i wordless
      cases said
      exact Json.Number.wording_text wordless
  · split at said
    · rename_i ink
      split at said
      · cases said
      · rename_i wordless
        cases said
        exact wording_trim ink wordless
    · cases said
  · rename_i unnumbered unquoted
    cases said
    exact Json.wording_compact unnumbered unquoted

theorem canonical_of_session (read : row.session = .ok p) : p.Canonical := by
  unfold session at read
  cases named : row.id with
  | error fault =>
    rw [named] at read
    cases read
  | ok id =>
    rw [named] at read
    cases read
    refine ⟨inked_inked? _ _, ?_, inked_inked? _ _, inked_inked? _ _,
      isMeasure_iff.mp (isMeasure_measure _ _), isMeasure_iff.mp (isMeasure_measure _ _)⟩
    dsimp only
    split
    · exact canonical_timeOf _
    · nofun

theorem canonical_of_sessionOf {value : Json} (read : sessionOf value = .ok p) : p.Canonical := by
  unfold sessionOf at read
  split at read
  · rename_i fields
    cases filled : ofFields empty fields with
    | error fault =>
      rw [filled] at read
      cases read
    | ok row =>
      rw [filled] at read
      exact canonical_of_session read
  · cases read

/-! ### Columns as they are written -/

theorem textOf?_ofOption (text : Option String) : textOf? (.ofOption text) = text := by
  cases text <;> rfl

theorem filter_hasInk {text : Option String} (inked : Inked text) :
    text.filter Text.hasInk = text := by
  cases text with
  | none => rfl
  | some words => exact Option.filter_some_pos (Text.hasInk_iff.mpr (inked words rfl))

theorem timeOf_json {time : Elapsed} (canonical : time.Canonical) : timeOf time.json = time := by
  cases time with
  | seconds count =>
    have word : (Json.Number.integer count.toNat).word? = some count :=
      number_word?_eq_some_iff.mpr rfl
    rw [Elapsed.json, Json.ofNat, timeOf, word]
  | text words =>
    have wording := canonical words rfl
    have ink : Text.hasInk words = true :=
      Text.hasInk_iff.mpr (wording.trimmed.exists_solid wording.ne_nil)
    unfold Elapsed.json timeOf
    dsimp only
    rw [if_pos ink, Decimal.trimmedWord?_of_wording wording]
    dsimp only
    rw [Text.trim, Text.trimChars_of_trimmed wording.trimmed, String.ofList_toList]

theorem measure_double {x : Float} (sane : x.isFinite = true ∧ 0.0 ≤ x) {column : Column}
    (held : row column = some (.number (.double x))) : row.measure column = x := by
  have kept : isMeasure x = true := isMeasure_iff.mpr sane
  rw [measure, held, Option.bind_some, numberOf?, Json.Number.toFloat,
    Option.filter_some_pos kept, Option.getD_some]

theorem inked?_ofOption {text : Option String} (inked : Inked text) {column : Column}
    (held : row column = some (.ofOption text)) : row.inked? column = text := by
  rw [inked?, text?, held, Option.bind_some, textOf?_ofOption, filter_hasInk inked]

def cell (p : Session) : Column → Json
  | .id => p.id.json
  | .user => .string p.user
  | .host => .string p.host
  | .db => .ofOption p.db
  | .command => .string p.command
  | .time => p.time.json
  | .state => .ofOption p.state
  | .info => .ofOption p.info
  | .cpu => .number (.double p.cpu)
  | .memory => .number (.double p.memory)

theorem json_eq_cells (p : Session) :
    p.json = .object (Column.all.map fun column => (column.name, cell p column)) :=
  rfl

theorem session_of_cells (canonical : p.Canonical)
    (cells : ∀ column, row column = some (cell p column)) : row.session = .ok p := by
  have named : row.id = .ok p.id := id_eq_ok_iff.mpr ⟨_, cells .id, .number rfl⟩
  have text (column : Column) (words : String) (held : row column = some (.string words)) :
      (row.text? column).getD "" = words := by
    rw [text?, held]
    rfl
  unfold session
  rw [named, text .user p.user (cells .user), text .host p.host (cells .host),
    text .command p.command (cells .command), inked?_ofOption canonical.db (cells .db),
    inked?_ofOption canonical.state (cells .state), inked?_ofOption canonical.info (cells .info),
    measure_double canonical.cpu (cells .cpu), measure_double canonical.memory (cells .memory),
    cells .time]
  dsimp only [cell]
  rw [timeOf_json canonical.time]
  rfl

theorem sessionOf_object {fields : Json.Fields} (filled : ofFields empty fields = .ok row) :
    sessionOf (.object fields) = row.session := by
  rw [sessionOf, filled]
  rfl

theorem valuesIn_of_perm {fields : Json.Fields}
    (written : fields.Perm (Column.all.map fun column => (column.name, cell p column)))
    (column : Column) : column.valuesIn fields = [cell p column] := by
  have single : column.valuesIn (Column.all.map fun column => (column.name, cell p column)) =
      [cell p column] := by
    cases column <;> rfl
  rw [← List.perm_singleton, ← single]
  exact (written.filter _).map _

theorem sessionOf_written {row : Json} (canonical : p.Canonical) (written : p.WrittenAs row) :
    sessionOf row = .ok p := by
  obtain ⟨fields, _, rfl, same, permuted⟩ := written
  rw [json_eq_cells] at same
  cases same
  have values := valuesIn_of_perm permuted
  have single (column : Column) : (column.valuesIn fields).length ≤ 1 := by
    rw [values]
    exact Nat.le_refl 1
  rw [sessionOf_object (ofFields_of_single single)]
  refine session_of_cells canonical fun column => ?_
  rw [firsts, values, List.head?_cons]

end Row

namespace Snapshot

variable {rows : List Json} {sessions : List Session} {s : Snapshot} {time : Timestamp}

theorem Reads.canonical (reads : Reads rows sessions) : ∀ p ∈ sessions, p.Canonical := by
  induction reads with
  | nil => nofun
  | cons read _ ih => exact List.forall_mem_cons.mpr ⟨Row.canonical_of_sessionOf read, ih⟩

theorem reads_written (canonical : ∀ p ∈ sessions, p.Canonical)
    (written : List.Forall₂ Session.WrittenAs sessions rows) : Reads rows sessions := by
  induction written with
  | nil => exact .nil
  | cons first _ ih =>
    obtain ⟨head, tail⟩ := List.forall_mem_cons.mp canonical
    exact .cons (Row.sessionOf_written head first) (ih tail)

theorem writtenAs_json (sessions : List Session) :
    List.Forall₂ Session.WrittenAs sessions (sessions.map Session.json) :=
  List.forall₂_map_right_iff.mpr (List.forall₂_same.mpr fun _ _ => ⟨_, _, rfl, rfl, .refl _⟩)

/-- A session list that is taken over gives sessions in canonical form. What is written of them is
read back as the same snapshot, whatever the order of the fields. -/
theorem taken_is_canonical {value : Json} (taken : ofJson value time = .ok s) :
    (∀ p ∈ s.sessions, p.Canonical) ∧
      ofJson (.array (s.sessions.map Session.json)) time = .ok s ∧
      ∀ rows, List.Forall₂ Session.WrittenAs s.sessions rows →
        ofJson (.array rows) time = .ok s := by
  have outcome := outcome_ofJson value time
  rw [taken] at outcome
  cases outcome with
  | taken list reads captured =>
    have again (rows : List Json) (written : List.Forall₂ Session.WrittenAs s.sessions rows) :
        ofJson (.array rows) time = .ok s := by
      rw [ofJson_array_of_reads (reads_written reads.canonical written)]
      exact ofSessions_eq_ok_iff.mpr ⟨rfl, captured⟩
    exact ⟨reads.canonical, again _ (writtenAs_json _), again⟩

def looseRow : Json :=
  .object [("Id", .string " +07 "), ("user", .number (.integer 4)), ("Db", .bool true),
    ("Time", .number (.integer (-5))), ("State", .string " "), ("Info", .array [.null]),
    ("cpu", .string "-1"), ("MEM", .null), ("Memory", .number (.double 0.5))]

def looseSession : Session :=
  { Session.blank ⟨7⟩ with
    user := "4"
    db := some "true"
    time := .text "-5"
    info := some "[null]"
    memory := 0.5 }

theorem loose_row_is_canonical : ∃ s : Snapshot, s.sessions = [looseSession] ∧
    ofJson (.array [looseRow]) 3 = .ok s ∧ looseSession.Canonical ∧
    ofJson (.array [looseSession.json]) 3 = .ok s := by
  have read : Row.sessionOf looseRow = .ok looseSession := by decide +kernel
  obtain ⟨s, made⟩ : ∃ s, ofSessions [looseSession] 3 = .ok s :=
    exists_ofSessions_iff.mpr (by decide)
  have same : s.sessions = [looseSession] := sessions_of_ofSessions made
  have taken : ofJson (.array [looseRow]) 3 = .ok s :=
    (ofJson_array_of_reads (.cons read .nil)).trans made
  obtain ⟨canonical, again, -⟩ := taken_is_canonical taken
  rw [same] at canonical again
  exact ⟨s, same, taken, canonical _ (List.mem_singleton_self _), again⟩

end Snapshot

end SessionMonitor
