import SessionMonitor.Proofs.Json.Records
import SessionMonitor.Wire.Access
import SessionMonitor.Wire.Advice
import SessionMonitor.Wire.Execute
import SessionMonitor.Wire.Kill

/-!
# Messages are read back

What is written of a message is read back as the same message: what was left out as nothing, a
default as itself, each kind of result and time as that kind, and ids up to the largest word.
-/

namespace SessionMonitor

open Json (Draft Reads)

/-- The record can be written, and whatever is written of it is read back as the same record. -/
def ReadBack {α : Type} (json : α → Json) (read : Draft → Option α) (a : α) : Prop :=
  (∃ d, (json a).WrittenAs d) ∧ Reads read (json a) a

theorem readBack {α : Type} {json : α → Json} {read : Draft → Option α} {a : α}
    (reads : Reads read (json a) a) : ReadBack json read a :=
  ⟨Json.exists_writtenAs (json a), reads⟩

def Json.Fields.Kept (rows : List Json.Fields) : Prop :=
  ∀ row ∈ rows, (Json.object row).Canonical

theorem Json.reads_rows {rows : List Json.Fields} (kept : Fields.Kept rows) :
    Reads (Draft.list? Draft.anyFields?) (.array (rows.map .object)) rows :=
  reads_list fun row mem => reads_anyFields (kept row mem)

theorem Json.reads_texts (texts : List String) :
    Reads (Draft.list? Draft.text?) (.array (texts.map .string)) texts :=
  reads_list fun text _ => reads_text text

/-! ### Ids, times and sortings -/

theorem SessionId.reads_json (id : SessionId) : Reads ofDraft? id.json id := by
  intro d written
  rw [ofDraft?, Json.reads_word id.value d written, Option.map_some]

theorem SessionId.reads_list_json (ids : List SessionId) :
    Reads (Draft.list? ofDraft?) (.array (ids.map json)) ids :=
  Json.reads_list fun id _ => id.reads_json

theorem Elapsed.reads_json (time : Elapsed) : Reads ofDraft? time.json time := by
  intro d written
  cases time with
  | seconds count =>
    have word := Json.reads_word count d written
    cases written <;> simp_all [ofDraft?]
  | text words =>
    cases written
    rfl

theorem SortKey.reads_json (key : SortKey) : Reads ofDraft? key.json key := by
  intro d written
  cases written
  cases key <;> rfl

theorem Direction.reads_json (direction : Direction) : Reads ofDraft? direction.json direction := by
  intro d written
  cases written
  cases direction <;> rfl

theorem Sorting.reads_json (s : Sorting) : Reads ofDraft? s.json s := by
  intro d written
  obtain ⟨slot, slots⟩ := Json.exists_slots written (by simp)
  have key := slots.required "key" s.key.reads_json rfl
  have direction := slots.required "direction" s.direction.reads_json rfl
  simp [ofDraft?, slots.slots?, key, direction]

theorem Session.reads_json (p : Session) (cpu : p.cpu.isFinite = true)
    (memory : p.memory.isFinite = true) : Reads ofDraft? p.json p := by
  have distinct : ["id", "user", "host", "db", "command", "time", "state", "info", "cpu",
    "memory"].Nodup := by decide
  intro d written
  obtain ⟨slot, slots⟩ := Json.exists_slots written distinct
  have id := slots.required "id" p.id.reads_json rfl
  have user := slots.required "user" (Json.reads_text p.user) rfl
  have host := slots.required "host" (Json.reads_text p.host) rfl
  have db := slots.defaulted "db" (Json.reads_optionalText p.db) rfl none
  have command := slots.required "command" (Json.reads_text p.command) rfl
  have time := slots.required "time" p.time.reads_json rfl
  have state := slots.defaulted "state" (Json.reads_optionalText p.state) rfl none
  have info := slots.defaulted "info" (Json.reads_optionalText p.info) rfl none
  have cpu := slots.required "cpu" (Json.reads_float cpu) rfl
  have memory := slots.required "memory" (Json.reads_float memory) rfl
  simp [ofDraft?, slots.slots?, id, user, host, db, command, time, state, info, cpu, memory]

/-! ### Kills -/

theorem KillRequest.reads_json (r : KillRequest) : Reads ofDraft? r.json r := by
  intro d written
  obtain ⟨slot, slots⟩ := Json.exists_slots written (by simp)
  have ids := slots.required "process_ids" (SessionId.reads_list_json r.sessionIds) rfl
  simp [ofDraft?, slots.slots?, ids]

theorem KillFailure.reads_json (f : KillFailure) : Reads ofDraft? f.json f := by
  intro d written
  obtain ⟨slot, slots⟩ := Json.exists_slots written (by simp)
  have id := slots.required "id" f.id.reads_json rfl
  have error := slots.defaulted "error" (Json.reads_text f.error) rfl ""
  simp [ofDraft?, slots.slots?, id, error]

theorem KillResponse.reads_json (r : KillResponse) : Reads ofDraft? r.json r := by
  intro d written
  obtain ⟨slot, slots⟩ := Json.exists_slots written
    (by cases r.message <;> cases r.status <;> simp [Json.optionalField])
  have message := slots.optionalText "message" r.message
    (by cases r.message <;> cases r.status <;> rfl)
  have status := slots.optionalText "status" r.status
    (by cases r.message <;> cases r.status <;> rfl)
  have killed := slots.defaulted "killed" (SessionId.reads_list_json r.killed)
    (by cases r.message <;> cases r.status <;> rfl) []
  have failed := slots.defaulted "failed" (Json.reads_list fun f _ => KillFailure.reads_json f)
    (by cases r.message <;> cases r.status <;> rfl) []
  simp [ofDraft?, slots.slots?, message, status, killed, failed]

/-! ### Statements -/

theorem ExecuteRequest.reads_json (r : ExecuteRequest) : Reads ofDraft? r.json r := by
  intro d written
  obtain ⟨slot, slots⟩ := Json.exists_slots written (by cases r.db <;> simp [Json.optionalField])
  have query := slots.required "query" (Json.reads_text r.query) rfl
  have db := slots.optionalText "db" r.db (by cases r.db <;> rfl)
  simp [ofDraft?, slots.slots?, query, db]

namespace ExecuteResult

def Kept : ExecuteResult → Prop
  | rows _ data => Json.Fields.Kept data
  | message _ => True

theorem canonical_json {r : ExecuteResult} (kept : r.Kept) : r.json.Canonical := by
  cases r with
  | rows columns data =>
    have ascending : "columns" < "data" := by decide
    refine ⟨List.pairwise_pair.mpr ascending, Json.canonicalItems_iff.mpr ?_,
      Json.canonicalItems_iff.mpr ?_, trivial⟩
    · rintro _ mem
      obtain ⟨column, -, rfl⟩ := List.mem_map.mp mem
      trivial
    · rintro _ mem
      obtain ⟨row, inside, rfl⟩ := List.mem_map.mp mem
      exact kept row inside
  | message text => exact ⟨List.pairwise_singleton _ _, trivial, trivial⟩

/-- Rows are read back as rows, and a message, which has no columns, as a message. -/
theorem reads_json {r : ExecuteResult} (kept : r.Kept) : Reads ofDraft? r.json r := by
  intro d written
  have whole := Json.value?_of_writtenAs (canonical_json kept) written
  cases r with
  | rows columns data =>
    obtain ⟨slot, slots⟩ := Json.exists_slots written (by simp)
    have columnsRead := slots.required "columns" (Json.reads_texts columns) rfl
    have dataRead := slots.required "data" (Json.reads_rows kept) rfl
    cases written
    simp [ofDraft?, whole, rowsOf?, slots.field?, columnsRead, dataRead]
  | message text =>
    obtain ⟨slot, slots⟩ := Json.exists_slots written (by simp)
    have columnless : Draft.required (Draft.list? Draft.text?) (slot "columns") = none := by
      rw [slots.missing "columns" rfl, Draft.required, Option.bind_none]
    have textRead := slots.required "message" (Json.reads_text text) rfl
    cases written
    simp [ofDraft?, whole, rowsOf?, messageOf?, slots.field?, columnless, textRead]

end ExecuteResult

/-! ### Advice -/

theorem QueryRequest.reads_json (r : QueryRequest) : Reads ofDraft? r.json r := by
  intro d written
  obtain ⟨slot, slots⟩ := Json.exists_slots written (by simp)
  have query := slots.required "query" (Json.reads_text r.query) rfl
  simp [ofDraft?, slots.slots?, query]

theorem ExplainResponse.reads_json {r : ExplainResponse} (kept : Json.Fields.Kept r.plan) :
    Reads ofDraft? r.json r := by
  intro d written
  obtain ⟨slot, slots⟩ := Json.exists_slots written (by simp)
  have plan := slots.defaulted "plan" (Json.reads_rows kept) rfl []
  have interpretation :=
    slots.defaulted "interpretation" (Json.reads_texts r.interpretation) rfl []
  simp [ofDraft?, slots.slots?, plan, interpretation]

theorem RecommendResponse.reads_json (r : RecommendResponse) : Reads ofDraft? r.json r := by
  intro d written
  obtain ⟨slot, slots⟩ := Json.exists_slots written (by simp)
  have recommendations :=
    slots.defaulted "recommendations" (Json.reads_texts r.recommendations) rfl []
  simp [ofDraft?, slots.slots?, recommendations]

/-! ### Access -/

theorem PingResponse.reads_json (r : PingResponse) : Reads ofDraft? r.json r := by
  intro d written
  obtain ⟨slot, slots⟩ := Json.exists_slots written (by simp)
  have db := slots.defaulted "db" (Json.reads_text r.db) rfl ""
  simp [ofDraft?, slots.slots?, db]

theorem TokenResponse.reads_json (r : TokenResponse) : Reads ofDraft? r.json r := by
  intro d written
  obtain ⟨slot, slots⟩ := Json.exists_slots written
    (by cases r.tokenType <;> simp [Json.optionalField])
  have token := slots.required "access_token" (Json.reads_text r.accessToken) rfl
  have type := slots.optionalText "token_type" r.tokenType (by cases r.tokenType <;> rfl)
  simp [ofDraft?, slots.slots?, token, type]

theorem ErrorBody.reads_json {b : ErrorBody} (canonical : b.detail.Canonical) :
    Reads ofDraft? b.json b := by
  intro d written
  obtain ⟨slot, slots⟩ := Json.exists_slots written (by simp)
  have detail := slots.defaulted "detail" (Json.reads_value canonical) rfl .null
  simp [ofDraft?, slots.slots?, detail]

/-! ### All records -/

/-- A record is read back from whatever is written of it, its fields in any order. The measures of a
session have to be finite, as other numbers have no text. -/
theorem written_records_are_read_back :
    (∀ id, ReadBack SessionId.json SessionId.ofDraft? id) ∧
    (∀ time, ReadBack Elapsed.json Elapsed.ofDraft? time) ∧
    (∀ key, ReadBack SortKey.json SortKey.ofDraft? key) ∧
    (∀ direction, ReadBack Direction.json Direction.ofDraft? direction) ∧
    (∀ s, ReadBack Sorting.json Sorting.ofDraft? s) ∧
    (∀ p : Session, p.cpu.isFinite = true → p.memory.isFinite = true →
      ReadBack Session.json Session.ofDraft? p) ∧
    (∀ r, ReadBack KillRequest.json KillRequest.ofDraft? r) ∧
    (∀ f, ReadBack KillFailure.json KillFailure.ofDraft? f) ∧
    (∀ r, ReadBack KillResponse.json KillResponse.ofDraft? r) ∧
    (∀ r, ReadBack ExecuteRequest.json ExecuteRequest.ofDraft? r) ∧
    (∀ r : ExecuteResult, r.Kept → ReadBack ExecuteResult.json ExecuteResult.ofDraft? r) ∧
    (∀ r, ReadBack QueryRequest.json QueryRequest.ofDraft? r) ∧
    (∀ r : ExplainResponse, Json.Fields.Kept r.plan →
      ReadBack ExplainResponse.json ExplainResponse.ofDraft? r) ∧
    (∀ r, ReadBack RecommendResponse.json RecommendResponse.ofDraft? r) ∧
    (∀ r, ReadBack PingResponse.json PingResponse.ofDraft? r) ∧
    (∀ r, ReadBack TokenResponse.json TokenResponse.ofDraft? r) ∧
    (∀ b : ErrorBody, b.detail.Canonical → ReadBack ErrorBody.json ErrorBody.ofDraft? b) :=
  ⟨fun id => readBack id.reads_json,
    fun time => readBack time.reads_json,
    fun key => readBack key.reads_json,
    fun direction => readBack direction.reads_json,
    fun s => readBack s.reads_json,
    fun p cpu memory => readBack (p.reads_json cpu memory),
    fun r => readBack r.reads_json,
    fun f => readBack f.reads_json,
    fun r => readBack r.reads_json,
    fun r => readBack r.reads_json,
    fun _ kept => readBack (ExecuteResult.reads_json kept),
    fun r => readBack r.reads_json,
    fun _ kept => readBack (ExplainResponse.reads_json kept),
    fun r => readBack r.reads_json,
    fun r => readBack r.reads_json,
    fun r => readBack r.reads_json,
    fun _ canonical => readBack (ErrorBody.reads_json canonical)⟩

def nestedRow : Json.Fields :=
  [("cost", .object [("rows", .number (.integer 18446744073709551615)),
      ("share", .number (.double 0.5))]),
    ("keys", .array [.null, .string "PRIMARY"])]

def measuredSession : Session :=
  { Session.blank ⟨18446744073709551615⟩ with cpu := 1.5, time := .text "1 day" }

theorem nested_rows_are_read_back :
    ReadBack Session.json Session.ofDraft? measuredSession ∧
    ReadBack ExecuteResult.json ExecuteResult.ofDraft? (.rows ["cost", "keys"] [nestedRow]) ∧
    ReadBack ExplainResponse.json ExplainResponse.ofDraft? ⟨[nestedRow], ["full scan"]⟩ ∧
    ReadBack ErrorBody.json ErrorBody.ofDraft? ⟨.object nestedRow⟩ := by
  have canonical : (Json.object nestedRow).Canonical := by
    have inner : "rows" < "share" := by decide
    have outer : "cost" < "keys" := by decide
    have share : (0.5 : Float).isFinite = true := by decide
    have cost : Json.Canonical (.object [("rows", .number (.integer 18446744073709551615)),
        ("share", .number (.double 0.5))]) :=
      ⟨List.pairwise_pair.mpr inner, trivial, share, trivial⟩
    have keys : Json.Canonical (.array [.null, .string "PRIMARY"]) := ⟨trivial, trivial, trivial⟩
    exact ⟨List.pairwise_pair.mpr outer, cost, keys, trivial⟩
  have kept : Json.Fields.Kept [nestedRow] := by simpa [Json.Fields.Kept] using canonical
  obtain ⟨-, -, -, -, -, sessions, -, -, -, -, results, -, plans, -, -, -, errors⟩ :=
    written_records_are_read_back
  exact ⟨sessions _ (by decide) (by decide), results _ kept, plans _ kept, errors _ canonical⟩

end SessionMonitor
