import SessionMonitor.Proofs.Backend.Replies
import SessionMonitor.Proofs.Controller.Answers
import SessionMonitor.Proofs.Text.OneLine
import SessionMonitor.Screen.StatusBar

/-!
# How refusals are told

The words of a refusal are put on one line, from the body of the reply to the notice in the header,
but for the texts that the server has written itself: these are taken as they are, with their line
breaks.
-/

namespace SessionMonitor

open Text (OneLine Uncontrolled)

namespace ErrorBody

variable {b : ErrorBody} {c : Char}

def message? : Json → Option String
  | .object fields => (Json.Fields.get? fields "msg").bind Json.text?
  | _ => none

/-- The texts of a body that are told as the server has written them. -/
def verbatim (b : ErrorBody) : List String :=
  match b.detail with
  | .string s => [s]
  | .array items => items.filterMap message?
  | _ => []

theorem itemText_eq (item : Json) : itemText item = (message? item).getD item.compact := by
  unfold itemText message?
  cases item with
  | object fields =>
    dsimp only
    cases Json.Fields.get? fields "msg" with
    | none => rfl
    | some value => cases value <;> rfl
  | _ => rfl

/-- Items without a message are written compactly, so the control characters come from messages. -/
theorem mem_itemText_iff (control : c.toNat < 0x20) (item : Json) :
    c ∈ (itemText item).toList ↔ ∃ words ∈ message? item, c ∈ words.toList := by
  rw [itemText_eq]
  cases message? item with
  | none => exact iff_of_false (item.uncontrolled_compact.notMem control) (by simp)
  | some words => simp

theorem mem_text_iff (control : c.toNat < 0x20) :
    c ∈ b.text.toList ↔ ∃ words ∈ b.verbatim, c ∈ words.toList := by
  have solid : c ∉ "; ".toList := Uncontrolled.notMem (by decide) control
  unfold text verbatim
  cases b.detail with
  | string s => simp
  | null => simp
  | array items =>
    dsimp only
    rw [Text.mem_intercalate_iff solid]
    simp only [List.mem_map, List.mem_filterMap, exists_exists_and_eq_and,
      mem_itemText_iff control, Option.mem_def]
    exact ⟨fun ⟨item, among, words, said, member⟩ => ⟨words, ⟨item, among, said⟩, member⟩,
      fun ⟨words, ⟨item, among, said⟩, member⟩ => ⟨item, among, words, said, member⟩⟩
  | bool | number | object =>
    exact iff_of_false ((Json.uncontrolled_compact _).notMem control) (by simp)

end ErrorBody

namespace HttpReply

variable {reply : HttpReply} {b : ErrorBody} {c : Char}

theorem uncontrolled_phrase (status : Nat) :
    Uncontrolled ((Status.phrase? status).getD "error").toList := by
  have known : ∀ entry ∈ Status.phrases, Uncontrolled entry.2.toList := by decide +kernel
  cases found : Status.phrase? status with
  | none => decide
  | some phrase => exact known (status, phrase) (mem_phrases found)

theorem mem_refusal_iff (decodes : Answer.Decodes ErrorBody.ofDraft? reply.body b)
    (control : c.toNat < 0x20) :
    c ∈ reply.refusal.toList ↔ ∃ words ∈ b.verbatim, c ∈ words.toList := by
  rw [← ErrorBody.mem_text_iff control]
  by_cases said : b.text = ""
  · have silent : ∀ words, Answer.Decodes ErrorBody.ofDraft? reply.body words →
        words.text = "" := by
      intro words again
      rw [again.unique decodes, said]
    rw [refusal_of_silence silent, said]
    exact iff_of_false ((uncontrolled_phrase _).notMem control) (by simp)
  · rw [refusal_of_words decodes said]

end HttpReply

theorem Failure.mem_message_iff {status : Nat} {detail : String} {c : Char}
    (control : c.toNat < 0x20) :
    c ∈ (rejected status detail).message.toList ↔ c ∈ detail.toList := by
  have front : c ∉ "Backend rejected request (".toList := Uncontrolled.notMem (by decide) control
  have back : c ∉ "): ".toList := Uncontrolled.notMem (by decide) control
  have digits : c ∉ (toString status).toList := (Text.uncontrolled_toString status).notMem control
  show c ∈ ("Backend rejected request (" ++ toString status ++ "): " ++ detail).toList ↔ _
  simp only [String.toList_append, List.mem_append, front, digits, back, false_or]

namespace Controller

open Screen.StatusBar (noticeSpans)

variable {c : Controller} {now : Timestamp} {failure : Failure} {event : Event} {lead : String}

/-- The event brings the failure of a request, which is told in a notice behind the words `lead`. -/
inductive Tells (c : Controller) (failure : Failure) : Event → String → Prop where
  | kill (ids gone : List SessionId) :
    Tells c failure (.killCompleted ids gone (.error failure)) "Kill failed: "
  | databases : Tells c failure (.databasesLoaded (.error failure)) "Could not load databases: "
  | snapshot {ticket : Ticket} (fresh : c.console.engine.scheduler.isFresh ticket = true) :
    Tells c failure (.pollCompleted ticket (.error failure)) "Refresh failed: "

theorem notice_of_tells (tells : Tells c failure event lead) (now : Timestamp) :
    (c.handle now event).1.console.notice = some ⟨.error, lead ++ failure.message⟩ := by
  cases tells with
  | kill ids gone => rfl
  | databases => rfl
  | snapshot fresh =>
    simp only [handle, finishPoll, Engine.resolvePoll_fresh _ _ _ fresh]
    rfl

theorem Tells.uncontrolled_lead (tells : Tells c failure event lead) :
    Uncontrolled lead.toList := by
  cases tells <;> decide

theorem mem_notice_iff {status : Nat} {detail : String} {char : Char}
    (tells : Tells c (.rejected status detail) event lead) (control : char.toNat < 0x20) :
    char ∈ (lead ++ (Failure.rejected status detail).message).toList ↔ char ∈ detail.toList := by
  rw [String.toList_append, List.mem_append, or_iff_right (tells.uncontrolled_lead.notMem control),
    Failure.mem_message_iff control]

theorem oneLine_noticeSpans_iff {notice : Notice} :
    (∀ span ∈ noticeSpans (some notice), OneLine span.text) ↔ OneLine notice.words := by
  have gap : OneLine "  " := by decide
  rw [noticeSpans, List.forall_mem_cons, List.forall_mem_singleton]
  exact and_iff_right gap

/-- A refusal is told on one line, down to the notice in the header, if and only if the texts are on
one line that the server has written in it. -/
theorem refusals_are_told_on_one_line_iff (b : ErrorBody) :
    (OneLine b.text ↔ ∀ words ∈ b.verbatim, OneLine words) ∧
    ∀ reply : HttpReply, Answer.Decodes ErrorBody.ofDraft? reply.body b → ¬reply.Good →
      (∀ now operation,
        Client.outcome now operation reply = .error (.rejected reply.status reply.refusal)) ∧
      (OneLine reply.refusal ↔ ∀ words ∈ b.verbatim, OneLine words) ∧
      ∀ (c : Controller) now event lead, Tells c (.rejected reply.status reply.refusal) event lead →
        ∃ notice, (c.handle now event).1.console.notice = some notice ∧
          (OneLine notice.words ↔ ∀ words ∈ b.verbatim, OneLine words) ∧
          ((∀ span ∈ noticeSpans (some notice), OneLine span.text) ↔
            ∀ words ∈ b.verbatim, OneLine words) := by
  refine ⟨Text.oneLine_iff_of_mem fun _ => ErrorBody.mem_text_iff,
    fun reply decodes refused => ⟨fun _ _ => Client.outcome_of_refusal refused,
      Text.oneLine_iff_of_mem fun _ => HttpReply.mem_refusal_iff decodes, ?_⟩⟩
  intro c now event lead tells
  have words : OneLine (lead ++ (Failure.rejected reply.status reply.refusal).message) ↔
      ∀ words ∈ b.verbatim, OneLine words :=
    Text.oneLine_iff_of_mem fun _ control =>
      (mem_notice_iff tells control).trans (HttpReply.mem_refusal_iff decodes control)
  exact ⟨_, notice_of_tells tells now, words, oneLine_noticeSpans_iff.trans words⟩

/-- A refusal in which the server quotes a statement of two lines. -/
def quoting : HttpReply where
  status := 400
  body := "\x7b\"detail\":\"near 'FROM t\\r\\nWHERE x'\"\x7d".toUTF8.toList

theorem verbatim_quoting : ∃ b, Answer.Decodes ErrorBody.ofDraft? quoting.body b ∧
    b.verbatim = ["near 'FROM t\r\nWHERE x'"] := by
  have read : ((Json.Draft.ofBytes? quoting.body).bind ErrorBody.ofDraft?).map
      ErrorBody.verbatim = some ["near 'FROM t\r\nWHERE x'"] := by
    decide +kernel
  obtain ⟨b, decodes, written⟩ := Option.map_eq_some_iff.mp read
  exact ⟨b, Option.bind_eq_some_iff.mp decodes, written⟩

/-- The notice that a kill was refused has two lines, and so has what the header is given of it. -/
theorem quoted_statement_breaks_the_line :
    let refusal := Failure.rejected 400 quoting.refusal
    ¬quoting.Good ∧ ¬OneLine quoting.refusal ∧
      (∃ b, Answer.Decodes ErrorBody.ofDraft? quoting.body b ∧ ¬OneLine b.text) ∧
      ∃ notice, ((ofOptions {}).handle 0 (.killCompleted [⟨7⟩] [] (.error refusal))).1.console.notice
          = some notice ∧
        ¬OneLine notice.words ∧
        ¬∀ span ∈ noticeSpans (some notice), OneLine span.text := by
  intro refusal
  obtain ⟨b, decodes, written⟩ := verbatim_quoting
  have refused : ¬quoting.Good := fun good => absurd good.2 (by decide)
  have broken : ¬∀ words ∈ b.verbatim, OneLine words := by
    rw [written]
    decide
  obtain ⟨text, told⟩ := refusals_are_told_on_one_line_iff b
  obtain ⟨-, said, noticed⟩ := told quoting decodes refused
  obtain ⟨notice, shown, words, spans⟩ := noticed (ofOptions {}) 0 _ _ (.kill [⟨7⟩] [])
  exact ⟨refused, mt said.mp broken, ⟨b, decodes, mt text.mp broken⟩, notice, shown,
    mt words.mp broken, mt spans.mp broken⟩

end Controller

end SessionMonitor
