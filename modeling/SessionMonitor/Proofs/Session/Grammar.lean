import Mathlib.Data.List.Forall2
import SessionMonitor.Proofs.Session.Naming
import SessionMonitor.Proofs.Snapshot

/-!
# The grammar of session lists

Which lists of rows make up a snapshot. A list is taken as it is or not at all, and what it is
refused for is the first thing that is wrong with it.
-/

namespace SessionMonitor.Snapshot

variable {rows : List Json} {ids : List SessionId} {sessions : List Session} {s : Snapshot}
  {time : Timestamp} {fault : SnapshotFault}

/-! ### Rows of a list -/

/-- The sessions of the rows, one for each, in their order. -/
def Reads (rows : List Json) (sessions : List Session) : Prop :=
  List.Forall₂ (fun row p => Row.sessionOf row = .ok p) rows sessions

theorem Reads.names (reads : Reads rows sessions) :
    List.Forall₂ Row.Names rows (sessions.map (·.id)) := by
  rw [List.forall₂_map_right_iff]
  exact reads.imp fun row p read => Row.names_iff.mpr ⟨p, read, rfl⟩

theorem exists_reads_of_names (names : List.Forall₂ Row.Names rows ids) :
    ∃ sessions, Reads rows sessions ∧ sessions.map (·.id) = ids := by
  induction names with
  | nil => exact ⟨[], .nil, rfl⟩
  | cons first _ ih =>
    obtain ⟨p, read, rfl⟩ := Row.names_iff.mp first
    obtain ⟨sessions, reads, rfl⟩ := ih
    exact ⟨p :: sessions, .cons read reads, rfl⟩

theorem sessionsFrom_cons_ok {index : Nat} {row : Json} {p : Session}
    (read : Row.sessionOf row = .ok p) :
    sessionsFrom index (row :: rows) = (sessionsFrom (index + 1) rows).map (p :: ·) := by
  rw [sessionsFrom, read]
  cases sessionsFrom (index + 1) rows <;> rfl

theorem sessionsFrom_cons_error {index : Nat} {row : Json} {rowFault : RowFault}
    (failed : Row.sessionOf row = .error rowFault) :
    sessionsFrom index (row :: rows) = .error (.row index rowFault) := by
  rw [sessionsFrom, failed]

theorem sessionsFrom_of_reads {index : Nat} (reads : Reads rows sessions) :
    sessionsFrom index rows = .ok sessions := by
  induction reads generalizing index with
  | nil => rfl
  | cons read _ ih =>
    rw [sessionsFrom_cons_ok read, ih]
    rfl

theorem sessionsFrom_of_fault {index : Nat} {before after : List Json} {row : Json}
    {rowFault : RowFault} (earlier : ∀ other ∈ before, ∃ id, Row.Names other id)
    (failed : Row.sessionOf row = .error rowFault) :
    sessionsFrom index (before ++ row :: after) =
      .error (.row (index + before.length) rowFault) := by
  induction before generalizing index with
  | nil => exact sessionsFrom_cons_error failed
  | cons first rest ih =>
    obtain ⟨named, earlier⟩ := List.forall_mem_cons.mp earlier
    obtain ⟨id, names⟩ := named
    obtain ⟨p, read, -⟩ := Row.names_iff.mp names
    rw [List.cons_append, sessionsFrom_cons_ok read, ih earlier, List.length_cons,
      Nat.add_right_comm index 1, Nat.add_assoc]
    rfl

def FirstNameless (rows : List Json) (k : Nat) : Prop :=
  ∃ before row after, rows = before ++ row :: after ∧ before.length = k ∧
    (∀ earlier ∈ before, ∃ id, Row.Names earlier id) ∧ ∀ id, ¬Row.Names row id

/-- Either all rows name a session or there is a first one that does not. -/
theorem reads_or_firstNameless (rows : List Json) :
    (∃ sessions, Reads rows sessions) ∨ ∃ k, FirstNameless rows k := by
  induction rows with
  | nil => exact .inl ⟨[], .nil⟩
  | cons row rest ih =>
    cases read : Row.sessionOf row with
    | error rowFault =>
      exact .inr ⟨0, [], row, rest, rfl, rfl, nofun, Row.forall_not_names_iff.mpr ⟨rowFault, read⟩⟩
    | ok p =>
      rcases ih with ⟨sessions, reads⟩ | ⟨k, before, bad, after, rfl, rfl, earlier, nameless⟩
      · exact .inl ⟨p :: sessions, .cons read reads⟩
      · refine .inr ⟨_, row :: before, bad, after, rfl, rfl, ?_, nameless⟩
        exact List.forall_mem_cons.mpr ⟨⟨p.id, Row.names_iff.mpr ⟨p, read, rfl⟩⟩, earlier⟩

/-! ### Lists -/

theorem ofSessions_eq_ok_iff : ofSessions sessions time = .ok s ↔
    s.sessions = sessions ∧ s.capturedAt = time := by
  constructor
  · intro made
    have same := sessions_of_ofSessions made
    rw [← same, ofSessions_of_nodup s.distinct] at made
    exact ⟨same, congrArg capturedAt (Except.ok.inj made).symm⟩
  · rintro ⟨rfl, rfl⟩
    exact ofSessions_of_nodup s.distinct _

theorem ofJson_array_of_reads (reads : Reads rows sessions) :
    ofJson (.array rows) time = ofSessions sessions time := by
  show (sessionsFrom 0 rows).bind _ = _
  rw [sessionsFrom_of_reads reads]
  rfl

theorem ofJson_of_not_array {value : Json} (other : ∀ rows, value ≠ .array rows) :
    ofJson value time = .error (.notAList value.kind) := by
  cases value with
  | array rows => exact (other rows rfl).elim
  | _ => rfl

theorem ofJson_of_firstNameless {k : Nat} (first : FirstNameless rows k) :
    ∃ rowFault, ofJson (.array rows) time = .error (.row k rowFault) := by
  obtain ⟨before, row, after, rfl, rfl, earlier, nameless⟩ := first
  obtain ⟨rowFault, failed⟩ := Row.forall_not_names_iff.mp nameless
  refine ⟨rowFault, ?_⟩
  show (sessionsFrom 0 _).bind _ = _
  rw [sessionsFrom_of_fault earlier failed, Nat.zero_add]
  rfl

/-- What can become of a session list. -/
inductive Outcome (value : Json) (time : Timestamp) : Except SnapshotFault Snapshot → Prop where
  | notAList (other : ∀ rows, value ≠ .array rows) :
    Outcome value time (.error (.notAList value.kind))
  | row {rows : List Json} {k : Nat} {rowFault : RowFault} (list : value = .array rows)
    (first : FirstNameless rows k) : Outcome value time (.error (.row k rowFault))
  | duplicate {rows : List Json} {sessions : List Session} {id : SessionId}
    (list : value = .array rows) (reads : Reads rows sessions)
    (first : FirstRepeated (sessions.map (·.id)) id) :
    Outcome value time (.error (.duplicateId id))
  | taken {rows : List Json} {s : Snapshot} (list : value = .array rows)
    (reads : Reads rows s.sessions) (captured : s.capturedAt = time) : Outcome value time (.ok s)

theorem outcome_ofJson (value : Json) (time : Timestamp) :
    Outcome value time (ofJson value time) := by
  by_cases list : ∃ rows, value = .array rows
  · obtain ⟨rows, list⟩ := list
    rcases reads_or_firstNameless rows with ⟨sessions, reads⟩ | ⟨k, first⟩
    · have made : ofJson (.array rows) time = ofSessions sessions time :=
        ofJson_array_of_reads reads
      cases taken : ofSessions sessions time with
      | ok s =>
        obtain ⟨rfl, captured⟩ := ofSessions_eq_ok_iff.mp taken
        rw [list, made, taken]
        exact .taken rfl reads captured
      | error fault =>
        obtain ⟨id, rfl, first⟩ := ofSessions_eq_error_iff.mp taken
        rw [list, made, taken]
        exact .duplicate rfl reads first
    · have refused : ∃ rowFault, ofJson (.array rows) time = .error (.row k rowFault) :=
        ofJson_of_firstNameless first
      obtain ⟨rowFault, failed⟩ := refused
      rw [list, failed]
      exact .row rfl first
  · have other : ∀ rows, value ≠ .array rows := not_exists.mp list
    rw [ofJson_of_not_array other]
    exact .notAList other

/-- How a fault is told. -/
def Told (fault : SnapshotFault) (words : String) : Prop :=
  ∃ rest, (Refusal.malformedSnapshot fault).message = "Malformed snapshot: " ++ words ++ rest

theorem told_of_reason {words rest : String} (same : fault.reason = words ++ rest) :
    Told fault words := by
  refine ⟨rest, ?_⟩
  unfold Refusal.message
  dsimp only
  rw [same, String.append_assoc]

theorem reason_row (k : Nat) (rowFault : RowFault) :
    ∃ rest, (SnapshotFault.row k rowFault).reason = "row " ++ toString k ++ rest := by
  unfold SnapshotFault.reason
  cases rowFault with
  | notAnObject kind => exact ⟨" is " ++ (RowFault.notAnObject kind).reason, String.append_assoc⟩
  | repeatedColumn column =>
    exact ⟨": " ++ (RowFault.repeatedColumn column).reason, String.append_assoc⟩
  | missingId => exact ⟨": " ++ RowFault.missingId.reason, String.append_assoc⟩
  | invalidId value => exact ⟨": " ++ (RowFault.invalidId value).reason, String.append_assoc⟩

theorem told_row (k : Nat) (rowFault : RowFault) :
    Told (.row k rowFault) ("row " ++ toString k) := by
  obtain ⟨rest, same⟩ := reason_row k rowFault
  exact told_of_reason same

theorem told_notAList (kind : String) :
    Told (.notAList kind) ("expected a list of processes, got " ++ kind) :=
  told_of_reason String.append_empty.symm

theorem told_duplicateId (id : SessionId) :
    Told (.duplicateId id) ("duplicate process id " ++ toString id.value.toNat) :=
  told_of_reason String.append_empty.symm

/-- A session list is taken over if and only if its rows name sessions, no two of them the same. A
refusal is about the first row that names none, or else the first repetition. -/
theorem list_is_taken_iff (value : Json) (time : Timestamp) :
    ((∃ s, ofJson value time = .ok s) ↔
      ∃ rows ids, value = .array rows ∧ List.Forall₂ Row.Names rows ids ∧ ids.Nodup) ∧
    (∀ s, ofJson value time = .ok s → s.capturedAt = time ∧
      ∃ rows, value = .array rows ∧ Reads rows s.sessions ∧ List.Forall₂ Row.Names rows s.ids) ∧
    (∀ kind, ofJson value time = .error (.notAList kind) ↔
      kind = value.kind ∧ ∀ rows, value ≠ .array rows) ∧
    (∀ k, (∃ rowFault, ofJson value time = .error (.row k rowFault)) ↔
      ∃ rows, value = .array rows ∧ FirstNameless rows k) ∧
    (∀ id, ofJson value time = .error (.duplicateId id) ↔
      ∃ rows ids, value = .array rows ∧ List.Forall₂ Row.Names rows ids ∧ FirstRepeated ids id) ∧
    ∀ fault, ofJson value time = .error fault →
      (∃ kind, fault = .notAList kind ∧ Told fault ("expected a list of processes, got " ++ kind)) ∨
      (∃ k rowFault, fault = .row k rowFault ∧ Told fault ("row " ++ toString k)) ∨
      ∃ id, fault = .duplicateId id ∧
        Told fault ("duplicate process id " ++ toString id.value.toNat) := by
  have outcome := outcome_ofJson value time
  refine ⟨⟨?_, ?_⟩, ?_, fun kind => ⟨?_, ?_⟩, fun k => ⟨?_, ?_⟩, fun id => ⟨?_, ?_⟩, ?_⟩
  · rintro ⟨s, made⟩
    rw [made] at outcome
    cases outcome with
    | taken list reads => exact ⟨_, _, list, reads.names, s.distinct⟩
  · rintro ⟨rows, ids, rfl, names, nodup⟩
    obtain ⟨sessions, reads, rfl⟩ := exists_reads_of_names names
    rw [ofJson_array_of_reads reads]
    exact exists_ofSessions_iff.mpr nodup
  · intro s made
    rw [made] at outcome
    cases outcome with
    | taken list reads captured => exact ⟨captured, _, list, reads, reads.names⟩
  · intro refused
    rw [refused] at outcome
    cases outcome with
    | notAList other => exact ⟨rfl, other⟩
  · rintro ⟨rfl, other⟩
    exact ofJson_of_not_array other
  · rintro ⟨rowFault, refused⟩
    rw [refused] at outcome
    cases outcome with
    | row list first => exact ⟨_, list, first⟩
  · rintro ⟨rows, rfl, first⟩
    exact ofJson_of_firstNameless first
  · intro refused
    rw [refused] at outcome
    cases outcome with
    | duplicate list reads first => exact ⟨_, _, list, reads.names, first⟩
  · rintro ⟨rows, ids, rfl, names, first⟩
    obtain ⟨sessions, reads, rfl⟩ := exists_reads_of_names names
    rw [ofJson_array_of_reads reads]
    exact ofSessions_eq_error_iff.mpr ⟨id, rfl, first⟩
  · intro fault refused
    rw [refused] at outcome
    cases outcome with
    | notAList other => exact .inl ⟨_, rfl, told_notAList _⟩
    | row list first => exact .inr (.inl ⟨_, _, rfl, told_row _ _⟩)
    | duplicate list reads first => exact .inr (.inr ⟨_, rfl, told_duplicateId _⟩)

def rowOf (given : Json) : Json :=
  .object [("user", .null), ("Id", given), ("uptime", .null)]

theorem names_rowOf {given : Json} {id : SessionId} (names : Row.NamesId given id) :
    Row.Names (rowOf given) id := by
  refine ⟨_, rfl, fun column => ?_, given, ?_, names⟩
  · cases column <;> exact Nat.le_of_ble_eq_true rfl
  · exact List.mem_singleton_self given

/-- The number 7 and the text that writes it are one id. A row without an id goes before an id that
repeats. -/
theorem seven_twice_is_refused :
    ofJson (.array [rowOf (.number (.integer 7)), rowOf (.string " +07")]) 0 =
      .error (.duplicateId ⟨7⟩) ∧
    (∃ rowFault, ofJson (.array [rowOf (.number (.integer 7)), rowOf .null,
      rowOf (.string " +07")]) 0 = .error (.row 1 rowFault)) ∧
    ∃ s, ofJson (.array [rowOf (.number (.integer 8)), rowOf (.string " +07")]) 0 = .ok s := by
  have seven : Row.Names (rowOf (.number (.integer 7))) ⟨7⟩ := names_rowOf (.number rfl)
  have eight : Row.Names (rowOf (.number (.integer 8))) ⟨8⟩ := names_rowOf (.number rfl)
  have text : Row.Names (rowOf (.string " +07")) ⟨7⟩ := by
    refine names_rowOf (.text ⟨[' '], ['+'], ['0', '7'], [], rfl, ?_, nofun, .inr rfl, ?_⟩)
    · simp only [Text.AllBlank, List.forall_mem_singleton]
      rfl
    · exact Decimal.natural?_eq_some_iff.mp rfl
  have nameless : ∀ id, ¬Row.Names (rowOf .null) id :=
    Row.forall_not_names_iff.mpr ⟨.missingId, rfl⟩
  refine ⟨?_, ?_, ?_⟩
  · obtain ⟨-, -, -, -, repeated, -⟩ :=
      list_is_taken_iff (.array [rowOf (.number (.integer 7)), rowOf (.string " +07")]) 0
    refine (repeated ⟨7⟩).mpr ⟨_, [⟨7⟩, ⟨7⟩], rfl, .cons seven (.cons text .nil), ?_⟩
    exact ⟨[⟨7⟩], [], rfl, by decide, by decide⟩
  · obtain ⟨-, -, -, spoilt, -⟩ := list_is_taken_iff
      (.array [rowOf (.number (.integer 7)), rowOf .null, rowOf (.string " +07")]) 0
    refine (spoilt 1).mpr ⟨_, rfl, [_], _, _, rfl, rfl, ?_, nameless⟩
    exact List.forall_mem_singleton.mpr ⟨⟨7⟩, seven⟩
  · obtain ⟨taken, -⟩ :=
      list_is_taken_iff (.array [rowOf (.number (.integer 8)), rowOf (.string " +07")]) 0
    exact taken.mpr ⟨_, [⟨8⟩, ⟨7⟩], rfl, .cons eight (.cons text .nil), by decide⟩

end SessionMonitor.Snapshot
