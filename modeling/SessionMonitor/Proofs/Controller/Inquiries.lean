import SessionMonitor.Monitor
import SessionMonitor.Proofs.Console.Popup
import SessionMonitor.Proofs.Controller.Run

/-!
# Requests for advice

What one event does about the popup and its request, which requests the events of a run send, and in
which events only these requests report. The requests of a run have different numbers.
-/

namespace SessionMonitor

theorem Detail.contentOf_ne (answer : Except Failure Advice) :
    contentOf answer ≠ .loading ∧ contentOf answer ≠ .noStatement := by
  unfold contentOf
  split <;> exact ⟨nofun, nofun⟩

theorem Detail.contentOf_eq_recommendations {answer : Except Failure Advice} {items : List String}
    (shown : contentOf answer = .recommendations items) :
    ∃ advice, answer = .ok (.recommendations advice) := by
  unfold contentOf at shown
  split at shown
  · exact ⟨_, rfl⟩
  · cases shown
  · cases shown

theorem Detail.contentOf_eq_plan {answer : Except Failure Advice} {plan : ExplainResponse}
    (shown : contentOf answer = .plan plan) : ∃ advice, answer = .ok (.explain advice) := by
  unfold contentOf at shown
  split at shown
  · cases shown
  · exact ⟨_, rfl⟩
  · cases shown

structure Inquiry where
  id : UInt64
  kind : DetailKind
  query : String
deriving DecidableEq

namespace Inquiry

def request (q : Inquiry) : Request :=
  .detail q.id q.kind q.query

def ofEffect? : Effect → Option Inquiry
  | .send (.detail id kind query) => some ⟨id, kind, query⟩
  | _ => none

theorem ofEffect?_eq_some_iff {effect : Effect} {q : Inquiry} :
    ofEffect? effect = some q ↔ effect = .send q.request := by
  constructor
  · intro found
    unfold ofEffect? at found
    split at found
    · cases found
      rfl
    · cases found
  · rintro rfl
    rfl

theorem completed_request (q : Inquiry) (outcome : Except Failure (List UInt8)) (time : Timestamp) :
    ∃ answer, q.request.completed outcome time = .detailLoaded q.id answer ∧
      (∀ items, Detail.contentOf answer = .recommendations items → q.kind = .recommendations) ∧
      ∀ plan, Detail.contentOf answer = .plan plan → q.kind = .explain := by
  obtain ⟨id, kind, query⟩ := q
  cases kind with
  | recommendations =>
    refine ⟨_, rfl, fun _ _ => rfl, fun plan shown => ?_⟩
    obtain ⟨advice, same⟩ := Detail.contentOf_eq_plan shown
    cases outcome with
    | error failure => cases same
    | ok body =>
      simp only [Except.bind] at same
      cases read : Answer.recommend body <;> rw [read] at same <;> cases same
  | explain =>
    refine ⟨_, rfl, fun items shown => ?_, fun _ _ => rfl⟩
    obtain ⟨advice, same⟩ := Detail.contentOf_eq_recommendations shown
    cases outcome with
    | error failure => cases same
    | ok body =>
      simp only [Except.bind] at same
      cases read : Answer.explain body <;> rw [read] at same <;> cases same

end Inquiry

theorem Session.statement?_eq_some_iff {p : Session} {query : String} :
    p.statement? = some query ↔
      ∃ info, p.info = some info ∧ query = Text.trim info ∧ query ≠ "" := by
  rw [statement?, Option.filter_eq_some_iff, Option.map_eq_some_iff]
  constructor
  · rintro ⟨⟨info, held, rfl⟩, inked⟩
    exact ⟨info, held, rfl, of_decide_eq_true inked⟩
  · rintro ⟨info, held, rfl, inked⟩
    exact ⟨⟨info, held, rfl⟩, decide_eq_true inked⟩

theorem Detail.ofSession_silent {session : Session} (statement : session.statement? = none)
    (kind : DetailKind) : ofSession session kind = ⟨session, kind, none, .noStatement⟩ := by
  rw [ofSession, opening, statement]
  rfl

theorem Detail.ofSession_asking {session : Session} {query : String}
    (statement : session.statement? = some query) (kind : DetailKind) :
    ofSession session kind = ⟨session, kind, none, .loading⟩ := by
  rw [ofSession, opening, statement]
  rfl

namespace Controller

variable {c : Controller} {events : List (Timestamp × Event)}

/-! ### Steps -/

def inquiriesIn (effects : List Effect) : List Inquiry :=
  effects.filterMap Inquiry.ofEffect?

theorem mem_inquiriesIn {effects : List Effect} {q : Inquiry} :
    q ∈ inquiriesIn effects ↔ .send q.request ∈ effects := by
  simp [inquiriesIn, List.mem_filterMap, Inquiry.ofEffect?_eq_some_iff]

/-- A step that leaves the popup and its request alone. -/
structure Undisturbed (c : Controller) (step : Controller × List Effect) : Prop where
  detail : step.1.console.detail = c.console.detail
  active : step.1.activeDetail = c.activeDetail
  last : step.1.lastRequestId = c.lastRequestId
  inquiries : inquiriesIn step.2 = []

theorem undisturbed_withConsole {console : Console} (detail : console.detail = c.console.detail) :
    Undisturbed c (c.withConsole console, []) :=
  ⟨detail, rfl, rfl, rfl⟩

theorem Undisturbed.thenNotify {step : Controller × List Effect} (h : Undisturbed c step)
    (words : String) : Undisturbed c (thenNotify step words) :=
  ⟨h.detail, h.active, h.last, h.inquiries⟩

theorem undisturbed_poll (c : Controller) (issued : Option Ticket × Engine) :
    Undisturbed c (c.poll issued) := by
  refine ⟨rfl, rfl, rfl, ?_⟩
  obtain ⟨ticket, engine⟩ := issued
  cases ticket <;> rfl

theorem undisturbed_resume (c : Controller) : Undisturbed c c.resume := by
  rw [resume_eq]
  refine ⟨rfl, rfl, rfl, ?_⟩
  cases c.console.engine.resumePolling.1 <;> rfl

theorem undisturbed_perform (c : Controller) {action : Action} (aside : action.isAdvice = false) :
    Undisturbed c (c.perform action) := by
  cases action with
  | none | quit | kill | execute | loadDatabases => exact ⟨rfl, rfl, rfl, rfl⟩
  | togglePolling =>
    simp only [perform]
    split
    · exact ⟨rfl, rfl, rfl, rfl⟩
    · exact c.undisturbed_resume.thenNotify _
  | refresh => exact c.undisturbed_poll _
  | fetchDetail | closeDetail => cases aside

theorem undisturbed_start (c : Controller) (paused : Bool) : Undisturbed c (c.start paused) := by
  have begun : Undisturbed c (if paused then
      thenNotify c.refresh "Polling paused, press p to resume" else c.resume) := by
    split
    · exact (c.undisturbed_poll _).thenNotify _
    · exact c.undisturbed_resume
  refine ⟨begun.detail, begun.active, begun.last, ?_⟩
  show inquiriesIn (_ ++ _) = []
  rw [inquiriesIn, List.filterMap_append]
  exact List.append_eq_nil_iff.mpr ⟨begun.inquiries, rfl⟩

theorem undisturbed_finishKill (c : Controller) (ids gone : List SessionId)
    (response : KillResponse) : Undisturbed c (c.finishKill ids gone response) := by
  obtain ⟨notice, finished⟩ := c.exists_finishKill ids gone response
  rw [finished]
  exact ⟨rfl, rfl, rfl, rfl⟩

theorem detail_showPollOutcome (console : Console) (now : Timestamp)
    (outcome : PollOutcome Failure) :
    (console.showPollOutcome now outcome).detail = console.detail := by
  cases outcome <;> rfl

/-- What a step can do about the popup and its request, unless it brings an answer. -/
inductive PopupStep (c : Controller) (event : Event) : Controller × List Effect → Prop where
  | undisturbed {step : Controller × List Effect} (h : Undisturbed c step) : PopupStep c event step
  | closed {step : Controller × List Effect} (detail : step.1.console.detail = none)
    (active : step.1.activeDetail = none) (last : step.1.lastRequestId = c.lastRequestId)
    (inquiries : inquiriesIn step.2 = []) : PopupStep c event step
  /-- The popup is about a session that runs no statement. -/
  | silent {step : Controller × List Effect} {session : Session} {kind : DetailKind}
    (old : ∀ d, c.console.detail = some d → d.session = session)
    (statement : session.statement? = none)
    (detail : step.1.console.detail = some ⟨session, kind, none, .noStatement⟩)
    (active : step.1.activeDetail = c.activeDetail) (last : step.1.lastRequestId = c.lastRequestId)
    (inquiries : inquiriesIn step.2 = []) : PopupStep c event step
  | asked {step : Controller × List Effect} {session : Session} {key : Key} {q : Inquiry}
    (pressed : event = .key key) (statement : session.statement? = some q.query)
    (id : q.id = c.lastRequestId + 1)
    (detail : step.1.console.detail = some ⟨session, q.kind, some q.id, .loading⟩)
    (active : step.1.activeDetail = some q.id) (last : step.1.lastRequestId = q.id)
    (inquiries : inquiriesIn step.2 = [q]) : PopupStep c event step

theorem inquiriesIn_cancelDetail (c : Controller) : inquiriesIn c.cancelDetail.2 = [] := by
  unfold cancelDetail
  cases c.activeDetail <;> rfl

theorem popupStep_press (c : Controller) (now : Timestamp) (key : Key) :
    PopupStep c (.key key) (c.handle now (.key key)) := by
  have turn := Console.popup_press c.console key
  unfold handle
  dsimp only
  generalize c.console.press key = step at turn
  cases turn with
  | aside aside =>
    have kept := undisturbed_perform (c.withConsole step.2) aside.action
    exact .undisturbed ⟨kept.detail.trans aside.detail, kept.active, kept.last, kept.inquiries⟩
  | close => exact .closed rfl rfl rfl (inquiriesIn_cancelDetail _)
  | @replace session kind old =>
    cases statement : session.statement? with
    | none =>
      exact .silent (fun d opened => (old d opened).1) statement
        (congrArg some (Detail.ofSession_silent statement kind)) rfl rfl rfl
    | some query =>
      have asked : inquiriesIn ((c.withConsole c.console).cancelDetail.2 ++
          [.send (.detail (c.lastRequestId + 1) kind query)]) =
          [⟨c.lastRequestId + 1, kind, query⟩] := by
        rw [inquiriesIn, List.filterMap_append]
        exact congrArg (· ++ _) (inquiriesIn_cancelDetail _)
      have popup : ({ Detail.ofSession session kind with
          requestId := some (c.lastRequestId + 1) } : Detail) =
          ⟨session, kind, some (c.lastRequestId + 1), .loading⟩ := by
        rw [Detail.ofSession_asking statement kind]
      exact .asked (q := ⟨c.lastRequestId + 1, kind, query⟩) rfl statement rfl
        (congrArg some popup) rfl rfl asked

theorem popupStep_handle (c : Controller) (now : Timestamp) {event : Event}
    (other : ∀ id answer, event ≠ .detailLoaded id answer) :
    PopupStep c event (c.handle now event) := by
  cases event with
  | key key => exact c.popupStep_press now key
  | resize => exact .undisturbed ⟨rfl, rfl, rfl, rfl⟩
  | pollTick => exact .undisturbed (c.undisturbed_poll _)
  | pollCompleted ticket answer =>
    exact .undisturbed (undisturbed_withConsole (detail_showPollOutcome _ now _))
  | killCompleted ids gone answer =>
    cases answer with
    | ok response => exact .undisturbed (c.undisturbed_finishKill ids gone response)
    | error failure => exact .undisturbed ⟨rfl, rfl, rfl, rfl⟩
  | executeCompleted answer => exact .undisturbed ⟨rfl, rfl, rfl, rfl⟩
  | detailLoaded id answer => exact (other id answer rfl).elim
  | databasesLoaded answer =>
    cases answer with
    | ok names => exact .undisturbed ⟨rfl, rfl, rfl, rfl⟩
    | error failure => exact .undisturbed ⟨rfl, rfl, rfl, rfl⟩

/-! ### Answers -/

theorem finishDetail_of_late {id : UInt64} (answer : Except Failure Advice)
    (popup : ∀ d, c.console.detail = some d → d.requestId ≠ some id)
    (idle : c.activeDetail ≠ some id) : c.finishDetail id answer = c := by
  have unresolved : (c.console.resolveDetail id answer).2 = c.console := by
    unfold Console.resolveDetail
    split
    · rfl
    · rename_i d opened
      rw [if_neg (popup d opened)]
  unfold finishDetail
  rw [unresolved, if_neg idle]

theorem finishDetail_of_waiting {id : UInt64} {d : Detail} (answer : Except Failure Advice)
    (opened : c.console.detail = some d) (waits : d.requestId = some id) :
    (c.finishDetail id answer).console.detail =
      some { d with content := Detail.contentOf answer } := by
  simp [finishDetail, Console.resolveDetail, opened, waits]

/-! ### Runs -/

/-- The state after some events, whether the program has ended or not. -/
def through (c : Controller) (events : List (Timestamp × Event)) : Controller :=
  events.foldl (fun c event => (c.handle event.1 event.2).1) c

def inquiries (c : Controller) : List (Timestamp × Event) → List Inquiry
  | [] => []
  | event :: rest =>
    inquiriesIn (c.handle event.1 event.2).2 ++ inquiries (c.handle event.1 event.2).1 rest

theorem through_append (c : Controller) (first second : List (Timestamp × Event)) :
    c.through (first ++ second) = (c.through first).through second :=
  List.foldl_append

theorem through_concat (c : Controller) (events : List (Timestamp × Event))
    (event : Timestamp × Event) :
    c.through (events ++ [event]) = ((c.through events).handle event.1 event.2).1 :=
  through_append c events [event]

theorem inquiries_append (c : Controller) (first second : List (Timestamp × Event)) :
    c.inquiries (first ++ second) = c.inquiries first ++ (c.through first).inquiries second := by
  induction first generalizing c with
  | nil => rfl
  | cons event rest ih =>
    rw [List.cons_append, inquiries, inquiries, ih, List.append_assoc]
    rfl

theorem inquiries_concat (c : Controller) (events : List (Timestamp × Event))
    (event : Timestamp × Event) : c.inquiries (events ++ [event]) =
      c.inquiries events ++ inquiriesIn ((c.through events).handle event.1 event.2).2 := by
  rw [inquiries_append, inquiries, inquiries, List.append_nil]

theorem run_of_quitting (quitting : c.console.quitting = true)
    (events : List (Timestamp × Event)) : c.run events = c := by
  induction events with
  | nil => rfl
  | cons event rest ih =>
    have still : c.advance event = c := if_pos quitting
    rw [run, List.foldl_cons, still]
    exact ih

theorem exists_through_of_run (c : Controller) (events : List (Timestamp × Event)) :
    ∃ handled, handled <+: events ∧ c.run events = c.through handled := by
  induction events generalizing c with
  | nil => exact ⟨[], List.prefix_rfl, rfl⟩
  | cons event rest ih =>
    by_cases quitting : c.console.quitting = true
    · exact ⟨[], List.nil_prefix, run_of_quitting quitting _⟩
    · obtain ⟨handled, first, same⟩ := ih (c.handle event.1 event.2).1
      have alive : c.advance event = (c.handle event.1 event.2).1 := if_neg quitting
      refine ⟨event :: handled, List.cons_prefix_cons.mpr ⟨rfl, first⟩, ?_⟩
      rw [run, List.foldl_cons, alive]
      exact same

/-! ### Numbers of requests -/

/-- The requests are numbered in the order in which they are sent. -/
structure Numbered (start : Controller) (events : List (Timestamp × Event)) : Prop where
  last : (start.through events).lastRequestId.toNat = (start.inquiries events).length
  bounded : ∀ q ∈ start.inquiries events, q.id.toNat ≤ (start.inquiries events).length
  distinct : ((start.inquiries events).map (·.id)).Nodup

section
variable {start : Controller}

theorem Numbered.kept {event : Timestamp × Event} (h : Numbered start events)
    (last : ((start.through events).handle event.1 event.2).1.lastRequestId =
      (start.through events).lastRequestId)
    (inquiries : inquiriesIn ((start.through events).handle event.1 event.2).2 = []) :
    Numbered start (events ++ [event]) := by
  have same : start.inquiries (events ++ [event]) = start.inquiries events := by
    rw [inquiries_concat, inquiries, List.append_nil]
  constructor
  · rw [same, through_concat, last]
    exact h.last
  · rw [same]
    exact h.bounded
  · rw [same]
    exact h.distinct

theorem Numbered.asked {event : Timestamp × Event} {q : Inquiry} (h : Numbered start events)
    (few : (start.inquiries (events ++ [event])).length < UInt64.size)
    (id : q.id = (start.through events).lastRequestId + 1)
    (last : ((start.through events).handle event.1 event.2).1.lastRequestId = q.id)
    (inquiries : inquiriesIn ((start.through events).handle event.1 event.2).2 = [q]) :
    Numbered start (events ++ [event]) := by
  have more : start.inquiries (events ++ [event]) = start.inquiries events ++ [q] := by
    rw [inquiries_concat, inquiries]
  have length : (start.inquiries (events ++ [event])).length =
      (start.inquiries events).length + 1 := by
    rw [more, List.length_append, List.length_singleton]
  have number : q.id.toNat = (start.inquiries events).length + 1 := by
    rw [id, UInt64.toNat_add, h.last, UInt64.toNat_one]
    exact Nat.mod_eq_of_lt (length ▸ few)
  constructor
  · rw [through_concat, last, number, length]
  · rw [more, List.length_append, List.length_singleton]
    exact List.forall_mem_append.mpr
      ⟨fun other sent => Nat.le_succ_of_le (h.bounded other sent),
        List.forall_mem_singleton.mpr (Nat.le_of_eq number)⟩
  · have fresh : q.id ∉ (start.inquiries events).map (·.id) := by
      intro old
      obtain ⟨other, sent, same⟩ := List.mem_map.mp old
      have bound := h.bounded other sent
      rw [same] at bound
      omega
    rw [more, List.map_append, List.map_singleton, ← List.concat_eq_append]
    exact h.distinct.concat fresh

theorem Initial.popup {options : Engine.Options} (initial : Initial options start) :
    start.console.detail = none ∧ start.activeDetail = none ∧ start.lastRequestId = 0 := by
  cases initial with
  | unstarted => exact ⟨rfl, rfl, rfl⟩
  | started paused =>
    have calm := (ofOptions options).undisturbed_start paused
    exact ⟨calm.detail, calm.active, calm.last⟩

theorem few_of_append {first second : List (Timestamp × Event)}
    (few : (start.inquiries (first ++ second)).length < UInt64.size) :
    (start.inquiries first).length < UInt64.size := by
  rw [inquiries_append, List.length_append] at few
  omega

theorem Initial.numbered {options : Engine.Options} (initial : Initial options start)
    (few : (start.inquiries events).length < UInt64.size) : Numbered start events := by
  induction events using List.reverseRecOn with
  | nil =>
    refine ⟨?_, nofun, List.nodup_nil⟩
    show start.lastRequestId.toNat = 0
    rw [initial.popup.2.2]
    rfl
  | append_singleton events last ih =>
    obtain ⟨now, event⟩ := last
    have earlier := ih (few_of_append few)
    by_cases report : ∃ id answer, event = .detailLoaded id answer
    · obtain ⟨id, answer, rfl⟩ := report
      exact earlier.kept rfl rfl
    · have other : ∀ id answer, event ≠ .detailLoaded id answer :=
        fun id answer same => report ⟨id, answer, same⟩
      have step := (start.through events).popupStep_handle now other
      cases step with
      | undisturbed h => exact earlier.kept h.last h.inquiries
      | closed _ _ last inquiries => exact earlier.kept last inquiries
      | silent _ _ _ _ last inquiries => exact earlier.kept last inquiries
      | asked _ _ id _ _ last inquiries => exact earlier.asked few id last inquiries

theorem Numbered.eq_of_id {first second : Inquiry} (h : Numbered start events)
    (sent : first ∈ start.inquiries events) (other : second ∈ start.inquiries events)
    (same : first.id = second.id) : first = second :=
  List.inj_on_of_nodup_map h.distinct sent other same

theorem Numbered.fresh {event : Timestamp × Event} {q other : Inquiry}
    (h : Numbered start (events ++ [event]))
    (asked : .send q.request ∈ ((start.through events).handle event.1 event.2).2)
    (sent : other ∈ start.inquiries events) : other.id ≠ q.id := by
  have distinct := h.distinct
  rw [inquiries_concat, List.map_append] at distinct
  exact (List.nodup_append.mp distinct).2.2 _ (List.mem_map_of_mem sent) _
    (List.mem_map_of_mem (mem_inquiriesIn.mpr asked))

/-! ### Reports -/

def Unreported (id : UInt64) (events : List (Timestamp × Event)) : Prop :=
  ∀ event ∈ events, ∀ answer, event.2 ≠ .detailLoaded id answer

/-- Events in which only requests report that have been sent, each of them at most once, in any
order, cancelled or not. -/
inductive Faithful (start : Controller) : List (Timestamp × Event) → Prop where
  | nil : Faithful start []
  | other {events : List (Timestamp × Event)} {now : Timestamp} {event : Event}
    (h : Faithful start events) (other : ∀ id answer, event ≠ .detailLoaded id answer) :
    Faithful start (events ++ [(now, event)])
  | report {events : List (Timestamp × Event)} {q : Inquiry} (h : Faithful start events)
    (sent : q ∈ start.inquiries events) (unreported : Unreported q.id events) (now : Timestamp)
    (outcome : Except Failure (List UInt8)) (time : Timestamp) :
    Faithful start (events ++ [(now, q.request.completed outcome time)])

theorem Faithful.sent {now : Timestamp} {id : UInt64} {answer : Except Failure Advice}
    (h : Faithful start events) (reported : (now, .detailLoaded id answer) ∈ events) :
    ∃ q ∈ start.inquiries events, q.id = id := by
  induction h with
  | nil => cases reported
  | other h other ih =>
    rw [inquiries_concat]
    rcases List.mem_append.mp reported with earlier | last
    · obtain ⟨q, sent, same⟩ := ih earlier
      exact ⟨q, List.mem_append_left _ sent, same⟩
    · cases List.mem_singleton.mp last
      exact (other id answer rfl).elim
  | @report events q h sent _ _ outcome time ih =>
    rw [inquiries_concat]
    rcases List.mem_append.mp reported with earlier | last
    · obtain ⟨q, sent, same⟩ := ih earlier
      exact ⟨q, List.mem_append_left _ sent, same⟩
    · obtain ⟨told, completed, -⟩ := q.completed_request outcome time
      rw [completed] at last
      cases List.mem_singleton.mp last
      exact ⟨q, List.mem_append_left _ sent, rfl⟩

end

end Controller

end SessionMonitor
