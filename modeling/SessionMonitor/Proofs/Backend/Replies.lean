import SessionMonitor.Proofs.Backend.Client
import SessionMonitor.Proofs.Text.Trimming

/-!
# Replies

What a reply comes to is decided by its status and by what its body can be read as. Only a login
that succeeds changes the client, and its token stands in all later requests.
-/

namespace SessionMonitor

open Json (Draft)

/-! ### Bodies -/

/-- The body is a document that is read as `value`. -/
def Answer.Decodes {α : Type} (reader : Draft → Option α) (body : List UInt8) (value : α) : Prop :=
  ∃ document, Draft.ofBytes? body = some document ∧ reader document = some value

theorem Answer.read_eq_ok_iff {α : Type} {reader : Draft → Option α} {body : List UInt8}
    {value : α} : read reader body = .ok value ↔ Decodes reader body value := by
  unfold read Decodes
  rw [← Option.bind_eq_some_iff]
  cases (Draft.ofBytes? body).bind reader <;> simp

theorem Answer.Decodes.unique {α : Type} {reader : Draft → Option α} {body : List UInt8}
    {value other : α} (decodes : Decodes reader body value) (again : Decodes reader body other) :
    value = other := by
  obtain ⟨document, read, made⟩ := decodes
  obtain ⟨_, same, remade⟩ := again
  obtain rfl := Option.some.inj (read.symm.trans same)
  exact Option.some.inj (made.symm.trans remade)

theorem Answer.eq_unreadable {α : Type} {reader : Draft → Option α} {body : List UInt8}
    {failure : Failure} (failed : read reader body = .error failure) : failure = .unreadable := by
  unfold read at failed
  split at failed
  · cases failed
  · exact (Except.error.inj failed).symm

namespace Operation

/-- The body of a reply has the form that an operation asks for. -/
def Decodes (now : Timestamp) (body : List UInt8) :
    (operation : Operation) → operation.Result → Prop
  | processes, s => ∃ value, Json.ofBytes? body = some value ∧ Snapshot.ofJson value now = .ok s
  | databases, names => Answer.Decodes (Draft.list? Draft.text?) body names
  | ping, r => Answer.Decodes PingResponse.ofDraft? body r
  | kill _, r => Answer.Decodes KillResponse.ofDraft? body r
  | execute _ _, r => Answer.Decodes ExecuteResult.ofDraft? body r
  | explain _, r => Answer.Decodes ExplainResponse.ofDraft? body r
  | recommend _, r => Answer.Decodes RecommendResponse.ofDraft? body r
  | login _ _, r => Answer.Decodes TokenResponse.ofDraft? body r

/-- How an operation fails when a body has another form. -/
def MissesForm : Operation → Failure → Prop
  | processes, failure => ∃ words, failure = .malformedSnapshot words
  | _, failure => failure = .unreadable

variable {operation : Operation} {now : Timestamp} {body : List UInt8}

theorem snapshot_eq_ok_iff {s : Snapshot} : Answer.snapshot body now = .ok s ↔
    ∃ value, Json.ofBytes? body = some value ∧ Snapshot.ofJson value now = .ok s := by
  unfold Answer.snapshot Snapshot.ofBytes
  cases Json.ofBytes? body with
  | none => simp [Except.mapError]
  | some value =>
    cases made : Snapshot.ofJson value now <;> simp [made, Except.mapError]

theorem read_eq_ok_iff {value : operation.Result} :
    operation.read now body = .ok value ↔ operation.Decodes now body value := by
  cases operation with
  | processes => exact snapshot_eq_ok_iff
  | _ => exact Answer.read_eq_ok_iff

theorem missesForm_of_read {failure : Failure} (failed : operation.read now body = .error failure) :
    operation.MissesForm failure := by
  cases operation with
  | processes =>
    unfold Operation.read Answer.snapshot at failed
    dsimp only at failed
    cases made : Snapshot.ofBytes body now with
    | ok s =>
      rw [made] at failed
      cases failed
    | error fault =>
      rw [made] at failed
      exact ⟨_, (Except.error.inj failed).symm⟩
  | _ => exact Answer.eq_unreadable failed

end Operation

/-! ### Refusals -/

namespace HttpReply

def Good (reply : HttpReply) : Prop :=
  200 ≤ reply.status ∧ reply.status < 300

/-- What is said about a refusal: the words of its body, or what its status means if there are
none. -/
structure Says (reply : HttpReply) (detail : String) : Prop where
  words : ∀ words, Answer.Decodes ErrorBody.ofDraft? reply.body words → words.text ≠ "" →
    detail = words.text
  silence : (∀ words, Answer.Decodes ErrorBody.ofDraft? reply.body words → words.text = "") →
    detail = (Status.phrase? reply.status).getD "error"

variable {reply : HttpReply} {words : ErrorBody}

theorem refusal_of_words (decodes : Answer.Decodes ErrorBody.ofDraft? reply.body words)
    (said : words.text ≠ "") : reply.refusal = words.text := by
  obtain ⟨document, read, decodes⟩ := decodes
  unfold refusal
  rw [read, Option.bind_some, decodes]
  exact if_pos said

theorem refusal_of_silence
    (silent : ∀ words, Answer.Decodes ErrorBody.ofDraft? reply.body words → words.text = "") :
    reply.refusal = (Status.phrase? reply.status).getD "error" := by
  unfold refusal
  cases decodes : (Draft.ofBytes? reply.body).bind ErrorBody.ofDraft? with
  | none => exact if_neg (not_not_intro rfl)
  | some words =>
    obtain ⟨document, read, decodes⟩ := Option.bind_eq_some_iff.mp decodes
    exact if_neg (not_not_intro (silent words ⟨document, read, decodes⟩))

theorem mem_phrases {status : Nat} {phrase : String}
    (found : Status.phrase? status = some phrase) : (status, phrase) ∈ Status.phrases := by
  obtain ⟨before, after, same, -⟩ := List.lookup_eq_some_iff.mp found
  rw [same]
  exact List.mem_append_right _ List.mem_cons_self

theorem phrase_ne_empty {status : Nat} {phrase : String}
    (found : Status.phrase? status = some phrase) : phrase ≠ "" := by
  have spoken : ∀ entry ∈ Status.phrases, entry.2 ≠ "" := by decide
  exact spoken (status, phrase) (mem_phrases found)

theorem refusal_ne_empty (reply : HttpReply) : reply.refusal ≠ "" := by
  by_cases said : ∃ words, Answer.Decodes ErrorBody.ofDraft? reply.body words ∧ words.text ≠ ""
  · obtain ⟨words, decodes, said⟩ := said
    rwa [refusal_of_words decodes said]
  · have silent : ∀ words, Answer.Decodes ErrorBody.ofDraft? reply.body words → words.text = "" :=
      fun words decodes => Decidable.of_not_not fun some => said ⟨words, decodes, some⟩
    rw [refusal_of_silence silent]
    cases found : Status.phrase? reply.status with
    | none => decide
    | some phrase => exact phrase_ne_empty found

end HttpReply

/-! ### Outcomes -/

namespace Client

variable {operation : Operation} {now : Timestamp} {reply : HttpReply} {client : Client}

theorem isSuccess_iff : Status.isSuccess reply.status = true ↔ reply.Good := by
  simp [Status.isSuccess, HttpReply.Good]

theorem outcome_of_good (good : reply.Good) :
    outcome now operation reply = operation.read now reply.body :=
  if_pos (isSuccess_iff.mpr good)

theorem outcome_of_refusal (refused : ¬reply.Good) :
    outcome now operation reply = .error (.rejected reply.status reply.refusal) :=
  if_neg (mt isSuccess_iff.mp refused)

theorem outcome_eq_ok_iff {value : operation.Result} : outcome now operation reply = .ok value ↔
    reply.Good ∧ operation.Decodes now reply.body value := by
  by_cases good : reply.Good
  · rw [outcome_of_good good, Operation.read_eq_ok_iff]
    exact (and_iff_right good).symm
  · rw [outcome_of_refusal good]
    exact ⟨nofun, fun both => absurd both.1 good⟩

/-! ### Tokens -/

/-- A request and what came of it: a reply, or words for why there is none. -/
structure Exchange where
  operation : Operation
  reply : Except String HttpReply
  now : Timestamp

namespace Exchange

def result (e : Exchange) : Except Failure e.operation.Result :=
  match e.reply with
  | .ok reply => outcome e.now e.operation reply
  | .error words => .error (.unreachable words)

def Gives (e : Exchange) (token : String) : Prop :=
  ∃ username password reply answer, e.operation = .login username password ∧ e.reply = .ok reply ∧
    reply.Good ∧
    Answer.Decodes TokenResponse.ofDraft? reply.body answer ∧ answer.accessToken = token

end Exchange

def through (client : Client) (exchanges : List Exchange) : Client :=
  exchanges.foldl (fun client e => client.after e.operation e.result) client

theorem after_error {failure : Failure} : client.after operation (.error failure) = client := by
  cases operation <;> rfl

theorem after_of_gives {e : Exchange} {token : String} (gives : e.Gives token) :
    client.after e.operation e.result = client.withToken token := by
  obtain ⟨operation, reply, now⟩ := e
  obtain ⟨username, password, reply, answer, same, replied, good, decodes, rfl⟩ := gives
  dsimp only at same replied
  subst same replied
  have accepted : outcome now (.login username password) reply = .ok answer :=
    outcome_eq_ok_iff.mpr ⟨good, decodes⟩
  show client.after _ (outcome now (.login username password) reply) = _
  rw [accepted]
  rfl

theorem after_of_not_gives {e : Exchange} (other : ∀ token, ¬e.Gives token) :
    client.after e.operation e.result = client := by
  obtain ⟨operation, reply, now⟩ := e
  cases replied : reply with
  | error words => exact after_error
  | ok reply =>
    subst replied
    show client.after operation (outcome now operation reply) = client
    cases result : outcome now operation reply with
    | error failure => exact after_error
    | ok value =>
      cases operation with
      | login username password =>
        obtain ⟨good, decodes⟩ := outcome_eq_ok_iff.mp result
        exact absurd ⟨username, password, reply, value, rfl, rfl, good, decodes, rfl⟩
          (other value.accessToken)
      | _ => rfl

theorem through_of_not_gives {later : List Exchange}
    (others : ∀ e ∈ later, ∀ token, ¬e.Gives token) : client.through later = client := by
  induction later with
  | nil => rfl
  | cons e rest ih =>
    obtain ⟨other, others⟩ := List.forall_mem_cons.mp others
    show (client.after e.operation e.result).through rest = client
    rw [after_of_not_gives other, ih others]

/-- A login that succeeds is the last to decide the token until the next one does. -/
theorem through_of_gives {e : Exchange} {later : List Exchange} {token : String}
    (gives : e.Gives token) (others : ∀ e ∈ later, ∀ token, ¬e.Gives token) :
    client.through (e :: later) = client.withToken token := by
  show (client.after e.operation e.result).through later = _
  rw [after_of_gives gives, through_of_not_gives others]

/-- The request shows the token. Blanks at the end of a header mean nothing. -/
def Shows (request : HttpRequest) (token : String) : Prop :=
  ∃ header blanks, request.authorization = some header ∧ (∀ c ∈ blanks, c = ' ' ∨ c = '\t') ∧
    "Bearer ".toList ++ token.toList = header.toList ++ blanks

theorem shows_of_bearer? {request : HttpRequest} {token header : String}
    (put : bearer? token = some header) (shown : request.authorization = some header) :
    Shows request token := by
  unfold bearer? at put
  split at put
  · obtain rfl := Option.some.inj put
    refine ⟨_, ("Bearer ".toList ++ token.toList).rtakeWhile fun c => c = ' ' || c = '\t', shown,
      fun c last => ?_, ?_⟩
    · simpa using List.mem_rtakeWhile_imp last
    · simp only [String.toList_ofList, Text.dropTrailing_eq_rdropWhile,
        List.rdropWhile_append_rtakeWhile]
  · cases put

theorem bearer?_of_request? {request : HttpRequest} {token : String}
    (shown : operation.showsToken = true) (held : client.token = some token)
    (made : client.request? operation = some request) :
    ∃ header, bearer? token = some header ∧ request.authorization = some header := by
  unfold request? at made
  obtain ⟨address, -, made⟩ := Option.bind_eq_some_iff.mp made
  simp only [shown, held, ↓reduceIte] at made
  obtain ⟨authorization, written, made⟩ := Option.bind_eq_some_iff.mp made
  obtain ⟨header, put, rfl⟩ := Option.map_eq_some_iff.mp written
  obtain rfl := Option.some.inj made
  exact ⟨header, put, rfl⟩

theorem showsToken_of_not_login
    (other : ∀ username password, operation ≠ .login username password) :
    operation.showsToken = true := by
  cases operation with
  | login username password => exact absurd rfl (other username password)
  | _ => rfl

theorem exists_request? {address : Address} {token : String}
    (found : Address.ofText? (client.url operation) = some address)
    (shown : operation.showsToken = true) (held : client.token = some token)
    (clean : ∀ c ∈ token.toList, isHeaderChar c = true) :
    ∃ request, client.request? operation = some request := by
  simp [request?, found, shown, held, bearer?, List.all_eq_true.mpr clean]

def welcome : Exchange where
  operation := .login "ann" "secret"
  reply := .ok ⟨200, "\x7b\"access_token\":\"abc\"\x7d".toUTF8.toList⟩
  now := 0

def rebuff : Exchange where
  operation := .login "ann" "guess"
  reply := .ok ⟨401, []⟩
  now := 1

theorem gives_welcome : welcome.Gives "abc" := by
  have decodes : Answer.Decodes TokenResponse.ofDraft?
      "\x7b\"access_token\":\"abc\"\x7d".toUTF8.toList ⟨"abc", none⟩ :=
    Option.bind_eq_some_iff.mp (by decide +kernel)
  exact ⟨"ann", "secret", _, _, rfl, rfl, ⟨by decide, by decide⟩, decodes, rfl⟩

theorem not_gives_rebuff (token : String) : ¬rebuff.Gives token := by
  rintro ⟨username, password, reply, answer, -, replied, good, -⟩
  obtain rfl := Except.ok.inj replied
  exact absurd good.2 (by decide)

end Client

end SessionMonitor
