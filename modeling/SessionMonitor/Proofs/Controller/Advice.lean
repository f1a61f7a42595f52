import SessionMonitor.Proofs.Controller.Inquiries

/-!
# Advice in the popup

The popup waits for a request if and only if that request is under way, and what it shows is the
answer to a request that was sent for it. Answers that come too late change nothing.
-/

namespace SessionMonitor.Controller

variable {start : Controller} {events : List (Timestamp × Event)}

/-! ### The popup and its request -/

/-- After the events `before`, a key has opened or turned the popup `d` and sent `q` for it, and the
popup has stayed since. -/
structure Opened (start : Controller) (before : List (Timestamp × Event)) (now : Timestamp)
    (key : Key) (since : List (Timestamp × Event)) (d : Detail) (q : Inquiry) : Prop where
  sent : .send q.request ∈ ((start.through before).handle now (.key key)).2
  id : d.requestId = some q.id
  kind : d.kind = q.kind
  statement : ∃ info, d.session.info = some info ∧ q.query = Text.trim info ∧ q.query ≠ ""
  stayed : ∀ middle, middle <+: since → ∃ content,
    (start.through (before ++ (now, .key key) :: middle)).console.detail =
      some { d with content := content }

/-- How the popup and the request under way stand after some events. -/
inductive Standing (start : Controller) (events : List (Timestamp × Event)) :
    Option Detail → Option UInt64 → Prop where
  | closed : Standing start events none none
  | silent {session : Session} {kind : DetailKind} (statement : session.statement? = none) :
    Standing start events (some ⟨session, kind, none, .noStatement⟩) none
  | waiting {before since : List (Timestamp × Event)} {now : Timestamp} {key : Key} {d : Detail}
    {q : Inquiry} (split : events = before ++ (now, .key key) :: since)
    (opened : Opened start before now key since d q) (unreported : Unreported q.id events)
    (content : d.content = .loading) : Standing start events (some d) (some q.id)
  | shown {before between later : List (Timestamp × Event)} {now : Timestamp} {key : Key}
    {d : Detail} {q : Inquiry} {told : Timestamp} {answer : Except Failure Advice}
    {outcome : Except Failure (List UInt8)} {time : Timestamp}
    (split : events = before ++ (now, .key key) ::
      (between ++ (told, .detailLoaded q.id answer) :: later))
    (opened : Opened start before now key
      (between ++ (told, .detailLoaded q.id answer) :: later) d q)
    (reported : q.request.completed outcome time = .detailLoaded q.id answer)
    (content : d.content = Detail.contentOf answer) : Standing start events (some d) none

theorem Opened.extend {before since : List (Timestamp × Event)} {now : Timestamp} {key : Key}
    {d : Detail} {q : Inquiry} {event : Timestamp × Event} {content : DetailContent}
    (opened : Opened start before now key since d q)
    (stays : (start.through (before ++ (now, .key key) :: (since ++ [event]))).console.detail =
      some { d with content := content }) :
    Opened start before now key (since ++ [event]) { d with content := content } q where
  sent := opened.sent
  id := opened.id
  kind := opened.kind
  statement := opened.statement
  stayed middle first := by
    rcases List.prefix_concat_iff.mp first with rfl | earlier
    · exact ⟨content, stays⟩
    · exact opened.stayed middle earlier

theorem Opened.statement?_eq {before since : List (Timestamp × Event)} {now : Timestamp} {key : Key}
    {d : Detail} {q : Inquiry} (opened : Opened start before now key since d q) :
    d.session.statement? = some q.query := by
  obtain ⟨info, held, query, inked⟩ := opened.statement
  exact Session.statement?_eq_some_iff.mpr ⟨info, held, query, inked⟩

theorem Opened.mem_inquiries {before since : List (Timestamp × Event)} {now : Timestamp} {key : Key}
    {d : Detail} {q : Inquiry} (opened : Opened start before now key since d q) :
    q ∈ start.inquiries (before ++ (now, .key key) :: since) := by
  rw [inquiries_append, inquiries]
  exact List.mem_append_right _ (List.mem_append_left _ (mem_inquiriesIn.mpr opened.sent))

section
variable {detail : Option Detail} {active : Option UInt64}
  (standing : Standing start events detail active)
include standing

theorem Standing.extend {event : Timestamp × Event}
    (stays : (start.through (events ++ [event])).console.detail = detail)
    (unanswered : ∀ id, active = some id → ∀ answer, event.2 ≠ .detailLoaded id answer) :
    Standing start (events ++ [event]) detail active := by
  cases standing with
  | closed => exact .closed
  | silent statement => exact .silent statement
  | @waiting before since now key d q split opened unreported content =>
    have longer : events ++ [event] = before ++ (now, .key key) :: (since ++ [event]) := by
      rw [split, List.append_assoc, List.cons_append]
    refine .waiting longer (opened.extend (longer ▸ stays)) ?_ content
    exact List.forall_mem_append.mpr
      ⟨unreported, List.forall_mem_singleton.mpr (unanswered q.id rfl)⟩
  | @shown before between later now key d q told answer _ _ split opened reported content =>
    have longer : events ++ [event] = before ++ (now, .key key) ::
        (between ++ (told, .detailLoaded q.id answer) :: later ++ [event]) := by
      rw [split, List.append_assoc, List.cons_append]
    have kept := opened.extend (longer ▸ stays)
    rw [List.append_assoc, List.cons_append] at longer kept
    exact .shown longer kept reported content

theorem Standing.idle (silent : ∀ d, detail = some d → d.session.statement? = none) :
    active = none := by
  cases standing with
  | closed | silent | shown => rfl
  | waiting _ opened => cases (silent _ rfl).symm.trans opened.statement?_eq

theorem Standing.popup_of_active {id : UInt64} (busy : active = some id) :
    ∃ d, detail = some d ∧ d.requestId = some id ∧ d.content = .loading := by
  cases standing with
  | closed | silent | shown => cases busy
  | waiting _ opened _ content =>
    cases busy
    exact ⟨_, rfl, opened.id, content⟩

end

theorem Standing.loading_iff {d : Detail} {active : Option UInt64}
    (standing : Standing start events (some d) active) :
    d.content = .loading ↔ ∃ id, active = some id ∧ d.requestId = some id := by
  cases standing with
  | silent => exact ⟨nofun, nofun⟩
  | waiting _ opened _ content => exact ⟨fun _ => ⟨_, rfl, opened.id⟩, fun _ => content⟩
  | shown _ _ _ content =>
    refine ⟨fun loading => ?_, nofun⟩
    exact ((Detail.contentOf_ne _).1 (content.symm.trans loading)).elim

theorem Standing.silent_iff {d : Detail} {active : Option UInt64}
    (standing : Standing start events (some d) active) :
    d.content = .noStatement ↔ d.session.statement? = none := by
  cases standing with
  | silent statement => exact ⟨fun _ => statement, fun _ => rfl⟩
  | waiting _ opened _ content =>
    rw [content, opened.statement?_eq]
    exact ⟨nofun, nofun⟩
  | shown _ opened _ content =>
    rw [content, opened.statement?_eq]
    exact ⟨fun silent => ((Detail.contentOf_ne _).2 silent).elim, nofun⟩

theorem Standing.opened_of_request {d : Detail} {active : Option UInt64} {id : UInt64}
    (standing : Standing start events (some d) active) (waits : d.requestId = some id) :
    ∃ before now key since q, events = before ++ (now, .key key) :: since ∧
      Opened start before now key since d q ∧ q.id = id := by
  cases standing with
  | silent => cases waits
  | waiting split opened =>
    exact ⟨_, _, _, _, _, split, opened, Option.some.inj (opened.id.symm.trans waits)⟩
  | shown split opened =>
    exact ⟨_, _, _, _, _, split, opened, Option.some.inj (opened.id.symm.trans waits)⟩

/-! ### Events -/

def Stands (start : Controller) (events : List (Timestamp × Event)) : Prop :=
  Standing start events (start.through events).console.detail (start.through events).activeDetail

theorem handle_late (standing : Stands start events) {id : UInt64} (now : Timestamp)
    (answer : Except Failure Advice)
    (popup : ∀ d, (start.through events).console.detail = some d → d.requestId ≠ some id) :
    (start.through events).handle now (.detailLoaded id answer) = (start.through events, []) := by
  have idle : (start.through events).activeDetail ≠ some id := by
    intro busy
    obtain ⟨d, opened, waits, -⟩ := standing.popup_of_active busy
    exact popup d opened waits
  rw [handle, finishDetail_of_late answer popup idle]

section
variable {q : Inquiry} {now : Timestamp} {answer : Except Failure Advice}
  {outcome : Except Failure (List UInt8)} {time : Timestamp}

theorem stands_answered {before since : List (Timestamp × Event)} {sending : Timestamp} {key : Key}
    {d : Detail} (split : events = before ++ (sending, .key key) :: since)
    (opened : Opened start before sending key since d q)
    (held : (start.through events).console.detail = some d)
    (busy : (start.through events).activeDetail = some q.id)
    (reported : q.request.completed outcome time = .detailLoaded q.id answer) :
    Stands start (events ++ [(now, .detailLoaded q.id answer)]) := by
  have filled : (start.through (events ++ [(now, .detailLoaded q.id answer)])).console.detail =
      some { d with content := Detail.contentOf answer } := by
    rw [through_concat]
    exact finishDetail_of_waiting answer held opened.id
  have finished : (start.through (events ++ [(now, .detailLoaded q.id answer)])).activeDetail =
      none := by
    rw [through_concat]
    exact if_pos busy
  have longer : events ++ [(now, .detailLoaded q.id answer)] =
      before ++ (sending, .key key) :: (since ++ [(now, .detailLoaded q.id answer)]) := by
    rw [split, List.append_assoc, List.cons_append]
  rw [Stands, filled, finished]
  exact .shown longer (opened.extend (longer ▸ filled)) reported rfl

theorem stands_report (numbered : Numbered start events) (standing : Stands start events)
    (sent : q ∈ start.inquiries events) (unreported : Unreported q.id events)
    (reported : q.request.completed outcome time = .detailLoaded q.id answer) :
    Stands start (events ++ [(now, .detailLoaded q.id answer)]) := by
  by_cases waits : ∃ d, (start.through events).console.detail = some d ∧ d.requestId = some q.id
  · obtain ⟨d, held, waits⟩ := waits
    rw [Stands, held] at standing
    generalize busy : (start.through events).activeDetail = active at standing
    cases standing with
    | silent => cases waits
    | @shown _ _ _ _ _ _ other told earlier _ _ split opened =>
      -- The request of the popup has reported already, so this one is another.
      have same : other.id = q.id := Option.some.inj (opened.id.symm.trans waits)
      have member : (told, Event.detailLoaded q.id earlier) ∈ events := by
        rw [split, ← same]
        simp
      exact (unreported _ member earlier rfl).elim
    | @waiting _ _ _ _ _ other split opened =>
      obtain rfl : other = q := numbered.eq_of_id (split ▸ opened.mem_inquiries) sent
        (Option.some.inj (opened.id.symm.trans waits))
      exact stands_answered split opened held busy reported
  · have late := handle_late standing now answer fun d held same => waits ⟨d, held, same⟩
    rw [Stands, through_concat, late]
    refine standing.extend ?_ ?_
    · rw [through_concat, late]
    · rintro id busy other same
      obtain ⟨d, held, waiting, -⟩ := standing.popup_of_active busy
      cases same
      exact waits ⟨d, held, waiting⟩

end

theorem stands_other {now : Timestamp} {event : Event} (faithful : Faithful start events)
    (numbered : Numbered start (events ++ [(now, event)])) (standing : Stands start events)
    (other : ∀ id answer, event ≠ .detailLoaded id answer) :
    Stands start (events ++ [(now, event)]) := by
  have step := (start.through events).popupStep_handle now other
  rw [Stands, through_concat]
  cases step with
  | undisturbed h =>
    rw [h.detail, h.active]
    refine standing.extend ?_ fun id _ answer => other id answer
    rw [through_concat, h.detail]
  | closed detail active =>
    rw [detail, active]
    exact .closed
  | silent old statement detail active =>
    have idle := standing.idle fun d opened => (old d opened).symm ▸ statement
    rw [detail, active, idle]
    exact .silent statement
  | @asked session key q pressed statement id detail active last inquiries =>
    subst pressed
    have sent : .send q.request ∈ ((start.through events).handle now (.key key)).2 := by
      rw [← mem_inquiriesIn, inquiries]
      exact List.mem_singleton_self q
    have opened : Opened start events now key [] ⟨session, q.kind, some q.id, .loading⟩ q := by
      refine ⟨sent, rfl, rfl, Session.statement?_eq_some_iff.mp statement, ?_⟩
      intro middle first
      rw [List.prefix_nil.mp first, through_concat]
      exact ⟨_, detail⟩
    have unreported : Unreported q.id (events ++ [(now, .key key)]) := by
      refine List.forall_mem_append.mpr ⟨?_, List.forall_mem_singleton.mpr nofun⟩
      -- Whatever has reported so far was sent earlier, under another number.
      rintro ⟨told, _⟩ member answer rfl
      obtain ⟨earlier, asked, same⟩ := faithful.sent member
      exact numbered.fresh sent asked same
    rw [detail, active]
    exact .waiting rfl opened unreported rfl

section
variable {options : Engine.Options} (initial : Initial options start)
include initial

theorem Initial.stands (faithful : Faithful start events)
    (few : (start.inquiries events).length < UInt64.size) : Stands start events := by
  induction faithful with
  | nil =>
    obtain ⟨closed, idle, -⟩ := initial.popup
    show Standing start [] start.console.detail start.activeDetail
    rw [closed, idle]
    exact .closed
  | other h other ih =>
    exact stands_other h (initial.numbered few) (ih (few_of_append few)) other
  | @report events q h sent unreported now outcome time ih =>
    have earlier := few_of_append few
    obtain ⟨answer, reported, -⟩ := q.completed_request outcome time
    rw [reported]
    exact stands_report (initial.numbered earlier) (ih earlier) sent unreported reported

/-- Once the popup of a request has been closed or turned, no popup waits for that request again. -/
theorem Initial.not_waited {before after : List (Timestamp × Event)} {q : Inquiry}
    (faithful : Faithful start (before ++ after))
    (few : (start.inquiries (before ++ after)).length < UInt64.size)
    (sent : q ∈ start.inquiries before)
    (gone : ∀ d, (start.through before).console.detail = some d → d.requestId = some q.id →
      d.kind ≠ q.kind) {d : Detail}
    (opened : (start.through (before ++ after)).console.detail = some d) :
    d.requestId ≠ some q.id := by
  intro waits
  have standing := initial.stands faithful few
  rw [Stands, opened] at standing
  obtain ⟨first, sending, key, since, other, split, popup, same⟩ := standing.opened_of_request waits
  rw [List.append_cons] at split
  have numbered : Numbered start (first ++ [(sending, .key key)]) :=
    initial.numbered (few_of_append (split ▸ few))
  rw [← List.append_cons] at split
  -- The request was sent when the popup was opened, so the popup was open all the time since.
  have unsent : q ∉ start.inquiries first :=
    fun asked => numbered.fresh popup.sent asked same.symm
  rcases List.append_eq_append_iff.mp split with ⟨rest, rfl, -⟩ | ⟨rest, rfl, tail⟩
  · rw [inquiries_append] at unsent
    exact unsent (List.mem_append_left _ sent)
  · cases rest with
    | nil =>
      rw [List.append_nil] at sent
      exact unsent sent
    | cons event middle =>
      obtain ⟨rfl, rfl⟩ := List.cons.inj tail
      obtain ⟨content, stayed⟩ := popup.stayed middle (List.prefix_append middle after)
      have known : other = q := by
        refine (initial.numbered few).eq_of_id (split ▸ popup.mem_inquiries) ?_ same
        rw [inquiries_append]
        exact List.mem_append_left _ sent
      exact gone _ stayed waits (known ▸ popup.kind)

/-- The popup is loading if and only if its own request is under way, and it shows what that request
has brought. Once it is closed or turned, the answer changes nothing. -/
theorem popup_waits_for_its_request (faithful : Faithful start events)
    (few : (start.inquiries events).length < UInt64.size) :
    let c := start.through events
    (∀ d, c.console.detail = some d →
      (d.content = .loading ↔ ∃ id, c.activeDetail = some id ∧ d.requestId = some id) ∧
      (d.content = .noStatement ↔ d.session.statement? = none)) ∧
    (∀ id, c.activeDetail = some id → ∃ d, c.console.detail = some d ∧ d.requestId = some id ∧
      d.content = .loading ∧ ∀ now answer,
        (c.handle now (.detailLoaded id answer)).1.console.detail =
          some { d with content := Detail.contentOf answer }) ∧
    (∀ d, c.console.detail = some d → d.content ≠ .noStatement → d.content ≠ .loading →
      ∃ before sending key between told answer later q,
        events = before ++ (sending, .key key) ::
          (between ++ (told, .detailLoaded q.id answer) :: later) ∧
        Opened start before sending key
          (between ++ (told, .detailLoaded q.id answer) :: later) d q ∧
        (∃ outcome time, q.request.completed outcome time = .detailLoaded q.id answer) ∧
        d.content = Detail.contentOf answer ∧
        (∀ items, d.content = .recommendations items → d.kind = .recommendations) ∧
        ∀ plan, d.content = .plan plan → d.kind = .explain) ∧
    ∀ before after q, events = before ++ after → q ∈ start.inquiries before →
      (∀ d, (start.through before).console.detail = some d → d.requestId = some q.id →
        d.kind ≠ q.kind) →
      ∀ now answer, c.handle now (.detailLoaded q.id answer) = (c, []) := by
  intro c
  have standing : Standing start events c.console.detail c.activeDetail :=
    initial.stands faithful few
  refine ⟨?_, ?_, ?_, ?_⟩
  · intro d opened
    rw [opened] at standing
    exact ⟨standing.loading_iff, standing.silent_iff⟩
  · intro id busy
    obtain ⟨d, opened, waits, content⟩ := standing.popup_of_active busy
    exact ⟨d, opened, waits, content,
      fun now answer => finishDetail_of_waiting answer opened waits⟩
  · intro d opened spoken finished
    rw [opened] at standing
    generalize c.activeDetail = active at standing
    cases standing with
    | silent => exact (spoken rfl).elim
    | waiting _ _ _ content => exact (finished content).elim
    | @shown before between later sending key _ q told answer outcome time split popup reported
        content =>
      obtain ⟨_, completed, items, plan⟩ := q.completed_request outcome time
      cases completed.symm.trans reported
      rw [content, popup.kind]
      exact ⟨before, sending, key, between, told, answer, later, q, split, popup,
        ⟨outcome, time, reported⟩, rfl, items, plan⟩
  · rintro before after q rfl sent gone now answer
    exact handle_late standing now answer
      fun d opened => initial.not_waited faithful few sent gone opened

end

/-! ### A popup that is turned -/

def asking : Session :=
  { Session.blank ⟨1⟩ with info := some " SELECT 1 " }

def turned : List (Timestamp × Event) :=
  [(0, .pollCompleted ⟨1, 1, .resumed⟩ (.ok ⟨[asking], 0, by decide⟩)),
    (1, .key { code := .char 'e' }), (2, .key { code := .char 'r' })]

def overtaken : Inquiry := ⟨1, .explain, "SELECT 1"⟩

def awaited : Inquiry := ⟨2, .recommendations, "SELECT 1"⟩

/-- Both requests report, the one for the plan too late. -/
def reported : List (Timestamp × Event) :=
  turned ++ [(3, overtaken.request.completed (.ok "\x7b\x7d".toUTF8.toList) 3)] ++
    [(4, awaited.request.completed
      (.ok "\x7b\"recommendations\":[\"add an index\"]\x7d".toUTF8.toList) 4)]

def itemsIn (d : Detail) : List String :=
  match d.content with
  | .recommendations items => items
  | _ => []

theorem faithful_reported : Faithful ((ofOptions {}).start false).1 reported := by
  have opened : Faithful ((ofOptions {}).start false).1 turned :=
    .other (.other (.other .nil (by rintro id answer ⟨⟩)) (by rintro id answer ⟨⟩))
      (by rintro id answer ⟨⟩)
  have silent : Unreported 1 turned ∧ Unreported 2 turned := by simp [Unreported, turned]
  refine .report (.report opened (by decide +kernel) silent.1 _ _ _) (by decide +kernel) ?_ _ _ _
  refine List.forall_mem_append.mpr ⟨silent.2, List.forall_mem_singleton.mpr ?_⟩
  rintro answer ⟨⟩

theorem turned_popup_shows_recommendations :
    let start := ((ofOptions {}).start false).1
    (∃ d, (start.through reported).console.detail = some d ∧ itemsIn d = ["add an index"] ∧
      ∃ before sending key since q,
        Opened start before sending key since d q ∧ q.query = "SELECT 1") ∧
    ∀ now answer, (start.through reported).handle now (.detailLoaded 1 answer) =
      (start.through reported, []) := by
  intro start
  have few : (start.inquiries reported).length < UInt64.size := by decide +kernel
  obtain ⟨-, -, shown, late⟩ := popup_waits_for_its_request (.started false) faithful_reported few
  constructor
  · have popup : (start.through reported).console.detail.map
        (fun d => (d.session.info, itemsIn d)) = some (some " SELECT 1 ", ["add an index"]) := by
      decide +kernel
    obtain ⟨d, opened, same⟩ := Option.map_eq_some_iff.mp popup
    obtain ⟨info, items⟩ := Prod.mk.inj same
    have content (other : DetailContent) (none : itemsIn { d with content := other } = []) :
        d.content ≠ other := by
      rintro rfl
      cases items.symm.trans none
    obtain ⟨before, sending, key, between, told, answer, later, q, -, popup, -⟩ :=
      shown d opened (content _ rfl) (content _ rfl)
    obtain ⟨statement, held, query, -⟩ := popup.statement
    refine ⟨d, opened, items, before, sending, key, _, q, popup, ?_⟩
    obtain rfl := Option.some.inj (info.symm.trans held)
    rw [query]
    decide +kernel
  · have moved : (start.through turned).console.detail.map (·.requestId) = some (some 2) := by
      decide +kernel
    refine late turned _ overtaken (List.append_assoc _ _ _) (by decide +kernel) ?_
    intro d opened waits
    rw [opened, Option.map_some, waits] at moved
    cases moved

end SessionMonitor.Controller
