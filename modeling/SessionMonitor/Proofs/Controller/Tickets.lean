import SessionMonitor.Proofs.Controller.Answers
import SessionMonitor.Proofs.Controller.Exchanges
import SessionMonitor.Proofs.Engine.Freshness
import SessionMonitor.Proofs.Polling.Accounts

/-!
# Tickets and the timer

Every ticket that the engine gives out is sent in the same step, the scheduler counts the requests
that have not reported, and the timer is told whenever polling is started or stopped.
-/

namespace SessionMonitor

open PollEvent (tickets switches)

namespace Ticket

def ofEffect? : Effect → Option Ticket
  | .send (.snapshot ticket) => some ticket
  | _ => none

/-- Requests for the session list, which report with their tickets. -/
def exchange : Exchange Ticket where
  asks? := ofEffect?
  Reports event ticket := ∃ answer, event = .pollCompleted ticket answer

end Ticket

def Event.isPollReport : Event → Bool
  | .pollCompleted _ _ => true
  | _ => false

/-- Whether the timer is to run, if the effect is about the timer. -/
def Effect.timer? : Effect → Option Bool
  | .startTimer => some true
  | .stopTimer => some false
  | _ => none

/-- The commands to the timer among some effects: to run or not to run. -/
def timerCommands (effects : List Effect) : List Bool :=
  effects.filterMap Effect.timer?

theorem timerCommands_append (first second : List Effect) :
    timerCommands (first ++ second) = timerCommands first ++ timerCommands second :=
  List.filterMap_append

theorem Engine.resumePolling_cases (e : Engine) :
    (e.resumePolling.1 = none ∧
      (e.perform (.resumePolling : Step Failure)).scheduler.running =
        e.scheduler.running) ∨
    ∃ ticket, e.resumePolling.1 = some ticket ∧ e.scheduler.running = false ∧
      (e.perform (.resumePolling : Step Failure)).scheduler.running = true := by
  cases running : e.scheduler.running with
  | true =>
    have kept : e.resumePolling = (none, e) := by
      rw [resumePolling, Scheduler.resume, if_pos running]
      rfl
    rw [perform, kept]
    exact .inl ⟨rfl, running⟩
  | false =>
    rw [perform, resumePolling, Scheduler.resume, if_neg (by simp [running])]
    exact .inr ⟨_, rfl, rfl, rfl⟩

namespace Controller

open Ticket (exchange)

variable {c : Controller} {e : Engine} {step : Controller × List Effect}

/-! ### Steps -/

/-- The step does some operations on the engine, sends the tickets that they give out, and tells the
timer how they start and stop polling. -/
structure Polled (e : Engine) (steps : List (Engine.Step Failure))
    (step : Controller × List Effect) : Prop where
  engine : step.1.console.engine = e.run steps
  tickets : exchange.among step.2 = tickets (e.pollLog steps)
  commands : timerCommands step.2 = switches e.scheduler.running (e.pollLog steps)

theorem Polled.trans {first second : List (Engine.Step Failure)} {finish : Controller}
    {more : List Effect} (h : Polled e first step)
    (next : Polled step.1.console.engine second (finish, more)) :
    Polled e (first ++ second) (finish, step.2 ++ more) where
  engine := by
    rw [Engine.run_append, ← h.engine]
    exact next.engine
  tickets := by
    rw [Engine.pollLog_append, PollEvent.tickets_append, Exchange.among_append, h.tickets,
      ← h.engine]
    exact congrArg (_ ++ ·) next.tickets
  commands := by
    rw [Engine.pollLog_append, (e.follows_run first).switches_append, timerCommands_append,
      h.commands, ← h.engine]
    exact congrArg (_ ++ ·) next.commands

/-- Such a step that takes no answer. -/
structure Issuing (e : Engine) (steps : List (Engine.Step Failure))
    (step : Controller × List Effect) : Prop extends Polled e steps step where
  unanswered : ∀ event ∈ e.pollLog steps, event.isAnswer = false

theorem Issuing.inFlight {steps : List (Engine.Step Failure)} (h : Issuing e steps step) :
    step.1.console.engine.scheduler.inFlight =
      e.scheduler.inFlight + (exchange.among step.2).length := by
  rw [h.engine, h.tickets]
  exact (e.follows_run steps).inFlight h.unanswered

theorem Issuing.thenNotify {steps : List (Engine.Step Failure)} (h : Issuing e steps step)
    (words : String) : Issuing e steps (thenNotify step words) :=
  ⟨⟨h.engine, h.tickets, h.commands⟩, h.unanswered⟩

theorem issuing_silent (engine : step.1.console.engine = e) (tickets : exchange.among step.2 = [])
    (commands : timerCommands step.2 = []) : Issuing e [] step :=
  ⟨⟨engine, tickets, commands⟩, nofun⟩

theorem issuing_one (op : Engine.Step Failure)
    (unanswered : ∀ ticket answer, op ≠ .resolvePoll ticket answer)
    (engine : step.1.console.engine = e.perform op)
    (tickets : exchange.among step.2 = (e.ticket? op).toList)
    (commands : timerCommands step.2 =
      if (e.perform op).scheduler.running = e.scheduler.running then []
      else [(e.perform op).scheduler.running]) : Issuing e [op] step := by
  have log : e.pollLog [op] = e.scheduler.change (e.perform op).scheduler (e.ticket? op) := by
    rw [Engine.pollLog, Engine.pollLog, List.append_nil, e.pollEvents_of_no_answer op unanswered]
  constructor
  · constructor
    · exact engine
    · rw [log, Scheduler.tickets_change, tickets]
    · rw [log, Scheduler.switches_change, commands]
  · rw [log]
    exact fun event member => Scheduler.isAnswer_of_change member

theorem tickets_poll (c : Controller) (issued : Option Ticket × Engine) :
    exchange.among (c.poll issued).2 = issued.1.toList := by
  obtain ⟨ticket, engine⟩ := issued
  cases ticket <;> rfl

theorem commands_poll (c : Controller) (issued : Option Ticket × Engine) :
    timerCommands (c.poll issued).2 = [] := by
  obtain ⟨ticket, engine⟩ := issued
  cases ticket <;> rfl

theorem issuing_refresh (c : Controller) :
    Issuing c.console.engine [.requestRefresh] c.refresh :=
  issuing_one .requestRefresh (by simp) rfl rfl (if_pos rfl).symm

theorem issuing_pollTick (c : Controller) :
    Issuing c.console.engine [.pollTick] (c.poll c.console.engine.pollTick) := by
  refine issuing_one .pollTick (by simp) rfl (c.tickets_poll _) ?_
  have running :
      c.console.engine.scheduler.tick.2.running = c.console.engine.scheduler.running := by
    unfold Scheduler.tick
    split <;> rfl
  rw [commands_poll]
  exact (if_pos running).symm

theorem issuing_resume (c : Controller) :
    Issuing c.console.engine [.resumePolling] c.resume := by
  rw [resume_eq]
  refine issuing_one .resumePolling (by simp) rfl ?_ ?_
  · show _ = c.console.engine.resumePolling.1.toList
    cases c.console.engine.resumePolling.1 <;> rfl
  · rcases c.console.engine.resumePolling_cases with
      ⟨silent, same⟩ | ⟨ticket, issued, stopped, runs⟩
    · rw [silent, if_pos same]
      rfl
    · rw [issued, stopped, runs]
      rfl

theorem issuing_pause (c : Controller) (live : c.console.isLive = true) :
    Issuing c.console.engine [.pausePolling] c.pause := by
  refine issuing_one .pausePolling (by simp) rfl rfl ?_
  show [false] =
    if c.console.engine.scheduler.pause.running = c.console.engine.scheduler.running then []
    else [c.console.engine.scheduler.pause.running]
  have running : c.console.engine.scheduler.running = true := live
  rw [Scheduler.pause, if_pos running, running]
  rfl

theorem issuing_cancelDetail (c : Controller) : Issuing c.console.engine [] c.cancelDetail := by
  refine issuing_silent rfl ?_ ?_ <;> (unfold cancelDetail; cases c.activeDetail <;> rfl)

theorem exists_issuing_perform (c : Controller) (action : Action) :
    ∃ steps, Issuing c.console.engine steps (c.perform action) := by
  cases action with
  | togglePolling =>
    simp only [perform]
    split
    · rename_i live
      exact ⟨_, (c.issuing_pause live).thenNotify _⟩
    · exact ⟨_, c.issuing_resume.thenNotify _⟩
  | refresh => exact ⟨_, c.issuing_refresh⟩
  | fetchDetail kind query =>
    have cancelled := c.issuing_cancelDetail
    refine ⟨_, issuing_silent rfl ?_ ?_⟩
    · exact (exchange.among_append c.cancelDetail.2 _).trans (congrArg (· ++ _) cancelled.tickets)
    · exact (timerCommands_append c.cancelDetail.2 _).trans (congrArg (· ++ _) cancelled.commands)
  | closeDetail => exact ⟨_, c.issuing_cancelDetail⟩
  | none | quit | kill | execute | loadDatabases => exact ⟨_, issuing_silent rfl rfl rfl⟩

theorem exists_issuing_start (c : Controller) (paused : Bool) :
    ∃ steps, Issuing c.console.engine steps (c.start paused) := by
  have begun : ∃ steps, Issuing c.console.engine steps (if paused then
      thenNotify c.refresh "Polling paused, press p to resume" else c.resume) := by
    split
    · exact ⟨_, c.issuing_refresh.thenNotify _⟩
    · exact ⟨_, c.issuing_resume⟩
  obtain ⟨steps, issuing⟩ := begun
  refine ⟨steps, ⟨issuing.engine, ?_, ?_⟩, issuing.unanswered⟩
  · exact (exchange.among_append _ [.send .databases]).trans
      ((List.append_nil _).trans issuing.tickets)
  · exact (timerCommands_append _ [.send .databases]).trans
      ((List.append_nil _).trans issuing.commands)

theorem exists_issuing_press (c : Controller) (now : Timestamp) (key : Key) :
    ∃ steps, Issuing c.console.engine steps (c.handle now (.key key)) := by
  obtain ⟨edits, only, edited⟩ := c.console.edits_press key
  obtain ⟨steps, issuing⟩ :=
    exists_issuing_perform (c.withConsole (c.console.press key).2) (c.console.press key).1
  have silent := c.console.engine.pollLog_of_edits only
  have pressed : Polled c.console.engine edits (c.withConsole (c.console.press key).2, []) :=
    ⟨edited, by rw [silent]; rfl, by rw [silent]; rfl⟩
  refine ⟨edits ++ steps, pressed.trans issuing.toPolled, ?_⟩
  rw [Engine.pollLog_append, silent, ← edited]
  exact issuing.unanswered

theorem exists_issuing_handle (c : Controller) (now : Timestamp) {event : Event}
    (other : event.isPollReport = false) :
    ∃ steps, Issuing c.console.engine steps (c.handle now event) := by
  cases event with
  | key key => exact c.exists_issuing_press now key
  | pollTick => exact ⟨_, c.issuing_pollTick⟩
  | pollCompleted => cases other
  | killCompleted ids gone answer =>
    cases answer with
    | ok response =>
      obtain ⟨notice, finished⟩ := c.exists_finishKill ids gone response
      rw [handle, finished]
      exact ⟨_, issuing_one (.completeKill ids) (by simp) rfl rfl (if_pos rfl).symm⟩
    | error failure => exact ⟨_, issuing_silent rfl rfl rfl⟩
  | detailLoaded requestId answer =>
    obtain ⟨detail, resolved⟩ := exists_resolveDetail c.console requestId answer
    exact ⟨_, issuing_silent (congrArg (·.engine) resolved) rfl rfl⟩
  | databasesLoaded answer => cases answer <;> exact ⟨_, issuing_silent rfl rfl rfl⟩
  | resize | executeCompleted => exact ⟨_, issuing_silent rfl rfl rfl⟩

theorem polled_report (c : Controller) (now : Timestamp) (ticket : Ticket)
    (answer : Except Failure Snapshot) :
    Polled c.console.engine [.resolvePoll ticket answer]
      (c.handle now (.pollCompleted ticket answer)) := by
  have log : c.console.engine.pollLog [.resolvePoll ticket answer] =
      [.answered ticket answer.toOption (c.console.engine.scheduler.isFresh ticket)] := by
    rw [Engine.pollLog, Engine.pollLog, List.append_nil, Engine.pollEvents_resolvePoll]
  exact ⟨c.engine_finishPoll now ticket answer, by rw [log]; rfl, by rw [log]; rfl⟩

theorem exists_polled_handle (c : Controller) (now : Timestamp) (event : Event) :
    ∃ steps, Polled c.console.engine steps (c.handle now event) := by
  cases event with
  | pollCompleted ticket answer => exact ⟨_, c.polled_report now ticket answer⟩
  | _ => exact (c.exists_issuing_handle now (by rfl)).imp fun _ issuing => issuing.toPolled

theorem inFlight_report (c : Controller) (now : Timestamp) (ticket : Ticket)
    (answer : Except Failure Snapshot) :
    (c.handle now (.pollCompleted ticket answer)).1.console.engine.scheduler.inFlight =
      c.console.engine.scheduler.inFlight - 1 := by
  show (c.finishPoll now ticket answer).console.engine.scheduler.inFlight = _
  rw [engine_finishPoll, Engine.resolvePoll_scheduler, Scheduler.accept]
  split <;> rfl

theorem handle_pollTick_stopped (stopped : c.console.engine.scheduler.running = false)
    (now : Timestamp) : c.handle now .pollTick = (c, []) := by
  have silent : c.console.engine.pollTick = (none, c.console.engine) := by
    rw [Engine.pollTick, Scheduler.tick, if_neg (by simp [stopped])]
    rfl
  rw [handle, silent]
  rfl

theorem handle_pollTick_running (running : c.console.engine.scheduler.running = true)
    (now : Timestamp) : (c.handle now .pollTick).2 =
      [.send (.snapshot (c.console.engine.scheduler.nextTicket .scheduled))] := by
  rw [handle, Engine.pollTick, Scheduler.tick, if_pos running]
  rfl

/-! ### Runs -/

section
variable {options : Engine.Options} {origin : Controller × List Effect}
  {events : List (Timestamp × Event)} {waiting : List (Ticket × Nat)}

theorem Begun.issuing (begun : Begun options origin) :
    ∃ steps, Issuing (.ofOptions options) steps origin := by
  cases begun with
  | unstarted => exact ⟨[], issuing_silent rfl rfl rfl⟩
  | started paused => exact exists_issuing_start (ofOptions options) paused

theorem Begun.polled (begun : Begun options origin) (events : List (Timestamp × Event)) :
    ∃ steps, Polled (.ofOptions options) steps
      (origin.1.through events, origin.2 ++ origin.1.wanted events) := by
  induction events using List.reverseRecOn with
  | nil =>
    obtain ⟨steps, issuing⟩ := begun.issuing
    rw [wanted, List.append_nil]
    exact ⟨steps, issuing.toPolled⟩
  | append_singleton events last ih =>
    obtain ⟨first, earlier⟩ := ih
    obtain ⟨second, step⟩ := (origin.1.through events).exists_polled_handle last.1 last.2
    rw [through_concat, wanted_concat, ← List.append_assoc]
    exact ⟨first ++ second, earlier.trans step⟩

theorem Polled.running {steps : List (Engine.Step Failure)} (h : Polled e steps step) :
    step.1.console.engine.scheduler.running =
      (timerCommands step.2).getLast?.getD e.scheduler.running := by
  rw [h.engine, h.commands]
  exact (e.follows_run steps).running

theorem Begun.inFlight (begun : Begun options origin) (run : exchange.Open origin events waiting) :
    (origin.1.through events).console.engine.scheduler.inFlight = waiting.length ∧
      waiting.length + events.countP (·.2.isPollReport) = (exchange.sent origin events).length := by
  induction run with
  | origin =>
    obtain ⟨steps, issuing⟩ := begun.issuing
    rw [exchange.sent_nil, List.length_zipIdx]
    exact ⟨issuing.inFlight.trans (Nat.zero_add _), rfl⟩
  | @aside events waiting event run aside ih =>
    have other : event.2.isPollReport = false := by
      cases same : event.2 with
      | pollCompleted ticket answer => exact (aside ticket ⟨answer, same⟩).elim
      | _ => rfl
    obtain ⟨steps, issuing⟩ := (origin.1.through events).exists_issuing_handle event.1 other
    have count := issuing.inFlight
    rw [through_concat, exchange.sent_concat, Exchange.next, List.length_append, List.length_append,
      List.length_zipIdx, List.countP_append, List.countP_singleton, other]
    rw [ih.1] at count
    refine ⟨count, ?_⟩
    rw [← ih.2]
    simp only [Bool.false_eq_true, if_false]
    omega
  | @report events before after ticket n event run reports ih =>
    -- The scheduler does not count below zero, but what reports has been waiting.
    obtain ⟨answer, told⟩ := reports
    have count := (origin.1.through events).inFlight_report event.1 ticket answer
    rw [← told, ih.1] at count
    have silent : exchange.among ((origin.1.through events).handle event.1 event.2).2 = [] := by
      rw [told]
      rfl
    have reported : event.2.isPollReport = true := by rw [told]; rfl
    have sent := ih.2
    rw [List.length_append, List.length_cons] at count sent
    rw [through_concat, exchange.sent_concat, Exchange.next, silent, List.zipIdx_nil,
      List.append_nil, List.append_nil, List.countP_append, List.countP_singleton, reported,
      List.length_append]
    refine ⟨count, ?_⟩
    rw [← sent, if_pos rfl]
    omega

/-- All tickets are sent, each once and in the step that gives it out. The timer runs while polling
does, and only then does its tick ask for the list. -/
theorem every_ticket_is_sent_once (begun : Begun options origin)
    (run : exchange.Open origin events waiting) :
    let c := origin.1.through events
    let s := c.console.engine.scheduler
    let sent := exchange.sent origin events
    (∀ now event, ∃ steps : List (Engine.Step Failure),
      (c.handle now event).1.console.engine = c.console.engine.run steps ∧
      exchange.among (c.handle now event).2 = tickets (c.console.engine.pollLog steps)) ∧
    (∃ steps : List (Engine.Step Failure),
      c.console.engine = (Engine.ofOptions options).run steps ∧
      sent = tickets ((Engine.ofOptions options).pollLog steps)) ∧
    (sent.length < UInt64.size → s.lastSeq.toNat = sent.length ∧
      sent.map (·.seq.toNat) = List.range' 1 sent.length ∧ sent.Nodup) ∧
    s.inFlight = waiting.length ∧
    waiting.length + events.countP (·.2.isPollReport) = sent.length ∧
    (s.running = true ↔
      (timerCommands (origin.2 ++ origin.1.wanted events)).getLast? = some true) ∧
    (s.running = true → ∀ now,
      (c.handle now .pollTick).2 = [.send (.snapshot (s.nextTicket .scheduled))]) ∧
    (s.running = false → ∀ now, c.handle now .pollTick = (c, [])) := by
  intro c s sent
  obtain ⟨steps, polled⟩ := begun.polled events
  have issued : sent = tickets ((Engine.ofOptions options).pollLog steps) := polled.tickets
  obtain ⟨waits, reported⟩ := begun.inFlight run
  refine ⟨fun now event => ?_, ⟨steps, polled.engine, issued⟩, fun few => ?_, waits, reported, ?_,
    fun running now => handle_pollTick_running running now,
    fun stopped now => handle_pollTick_stopped stopped now⟩
  · obtain ⟨more, step⟩ := c.exists_polled_handle now event
    exact ⟨more, step.engine, step.tickets⟩
  · rw [issued] at few ⊢
    have small : (Engine.ofOptions options).scheduler.lastSeq.toNat +
        (tickets ((Engine.ofOptions options).pollLog steps)).length < UInt64.size := by
      rw [← Nat.zero_add (tickets _).length] at few
      exact few
    obtain ⟨numbers, last⟩ := ((Engine.ofOptions options).follows_run steps).numbers small
    have engine : c.console.engine = (Engine.ofOptions options).run steps := polled.engine
    refine ⟨?_, numbers, ?_⟩
    · show c.console.engine.scheduler.lastSeq.toNat = _
      rw [engine, last]
      exact Nat.zero_add _
    · refine List.Nodup.of_map (·.seq.toNat) ?_
      rw [numbers]
      exact List.nodup_range'
  · have running := polled.running
    show c.console.engine.scheduler.running = true ↔ _
    rw [running]
    cases (timerCommands (origin.2 ++ origin.1.wanted events)).getLast? with
    | none => exact ⟨nofun, nofun⟩
    | some last => exact Option.some_inj.symm

/-- The session list is asked for once more, and then polling is stopped. -/
def interrupted : List (Timestamp × Event) :=
  [(0, .key { code := .char 'r' }), (1, .key { code := .char 'p' })]

/-- Of two requests, the second has reported. Its answer comes too late to count, and the first is
still awaited. -/
theorem late_report_is_counted :
    let origin := (ofOptions {}).start false
    let report : Timestamp × Event := (2, .pollCompleted ⟨1, 2, .outOfCycle⟩ (.ok .empty))
    let c := origin.1.through (interrupted ++ [report])
    exchange.Open origin (interrupted ++ [report]) [(⟨1, 1, .resumed⟩, 0)] ∧
      c.console.engine.scheduler.inFlight = 1 ∧
      c.console.engine.scheduler.isFresh ⟨1, 2, .outOfCycle⟩ = false ∧
      (exchange.sent origin (interrupted ++ [report])).Nodup ∧
      c.handle 3 .pollTick = (c, []) := by
  intro origin report c
  have begun : Begun {} origin := .started false
  have opened : exchange.Open origin [] [(⟨1, 1, .resumed⟩, 0)] := .origin
  have silent : ∀ event ∈ interrupted, ∀ a, ¬exchange.Reports event.2 a := by
    rintro event member a ⟨answer, told⟩
    simp only [interrupted, List.mem_cons, List.not_mem_nil, or_false] at member
    rcases member with rfl | rfl <;> cases told
  have run : exchange.Open origin (interrupted ++ [report]) [(⟨1, 1, .resumed⟩, 0)] := by
    have sends :
        exchange.among ((origin.1.through []).wanted interrupted) = [⟨1, 2, .outOfCycle⟩] := by
      decide +kernel
    have none : exchange.next origin interrupted report = [] := by decide +kernel
    have two := opened.asides silent
    rw [sends] at two
    have last : exchange.Open origin interrupted
        ([(⟨1, 1, .resumed⟩, 0)] ++ (⟨1, 2, .outOfCycle⟩, 1) :: []) := two
    have reported := last.report (show exchange.Reports report.2 ⟨1, 2, .outOfCycle⟩ from ⟨_, rfl⟩)
    rw [none] at reported
    exact reported
  obtain ⟨-, -, once, waits, -, -, -, tick⟩ := every_ticket_is_sent_once begun run
  exact ⟨run, waits, by decide +kernel, (once (by decide +kernel)).2.2, tick (by decide +kernel) 3⟩

end

end Controller

end SessionMonitor
