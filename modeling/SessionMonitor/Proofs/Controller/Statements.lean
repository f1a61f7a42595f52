import SessionMonitor.Proofs.Console.Executor
import SessionMonitor.Proofs.Controller.Answers
import SessionMonitor.Proofs.Controller.Exchanges

/-!
# Statements under way

A report does not say which statement it is about. It need not: the executor waits for one statement
at a time, and sends no other until that one has reported.
-/

namespace SessionMonitor

namespace Statement

def ofEffect? : Effect → Option Statement
  | .send (.execute query db) => some ⟨query, db⟩
  | _ => none

/-- Statements, which report by any outcome that is not said whose it is. -/
def exchange : Exchange Statement where
  asks? := ofEffect?
  Reports event _ := ∃ answer, event = .executeCompleted answer

end Statement

namespace Controller

open Statement (exchange)

variable {c : Controller}

/-! ### Steps -/

theorem among_poll (c : Controller) (issued : Option Ticket × Engine) :
    exchange.among (c.poll issued).2 = [] := by
  obtain ⟨ticket, engine⟩ := issued
  cases ticket <;> rfl

theorem among_resume (c : Controller) : exchange.among c.resume.2 = [] := by
  rw [resume_eq]
  cases c.console.engine.resumePolling.1 <;> rfl

theorem among_start (c : Controller) (paused : Bool) :
    exchange.among (c.start paused).2 = [] := by
  cases paused with
  | true => rfl
  | false =>
    show exchange.among (c.resume.2 ++ [.send .databases]) = []
    rw [Exchange.among_append, among_resume]
    rfl

theorem among_cancelDetail (c : Controller) : exchange.among c.cancelDetail.2 = [] := by
  unfold cancelDetail
  cases c.activeDetail <;> rfl

theorem among_perform (c : Controller) (action : Action) :
    exchange.among (c.perform action).2 = (Statement.ofAction? action).toList := by
  cases action with
  | togglePolling =>
    simp only [perform]
    split
    · rfl
    · exact c.among_resume
  | closeDetail => exact c.among_cancelDetail
  | fetchDetail kind query =>
    show exchange.among (c.cancelDetail.2 ++ [_]) = []
    rw [Exchange.among_append, among_cancelDetail]
    rfl
  | _ => rfl

theorem executor_perform (c : Controller) (action : Action) :
    (c.perform action).1.console.executor = c.console.executor := by
  obtain ⟨scheduler, detail, notice, performed⟩ := c.exists_perform action
  rw [performed]

theorem executor_start (c : Controller) (paused : Bool) :
    (c.start paused).1.console.executor = c.console.executor := by
  cases paused with
  | true => rfl
  | false =>
    obtain ⟨scheduler, resumed⟩ := c.exists_resume
    show c.resume.1.console.executor = _
    rw [resumed]

/-- What a step can do about the outcome that the executor shows and about statements. -/
inductive ExecutorStep (c : Controller) (event : Event) : Controller × List Effect → Prop where
  | kept {step : Controller × List Effect} (other : ∀ answer, event ≠ .executeCompleted answer)
    (output : step.1.console.executor.output = c.console.executor.output)
    (silent : exchange.among step.2 = []) : ExecutorStep c event step
  | refused {step : Controller × List Effect} (other : ∀ answer, event ≠ .executeCompleted answer)
    (idle : c.console.executor.isRunning = false)
    (output : step.1.console.executor.output = .failed (.refused .emptyQuery))
    (silent : exchange.among step.2 = []) : ExecutorStep c event step
  | begun {step : Controller × List Effect} (other : ∀ answer, event ≠ .executeCompleted answer)
    (idle : c.console.executor.isRunning = false) (inked : c.console.executor.statement.query ≠ "")
    (output : step.1.console.executor.output = .running)
    (sends : exchange.among step.2 = [c.console.executor.statement]) : ExecutorStep c event step
  | answered {step : Controller × List Effect} {answer : Except Failure ExecuteResult}
    (told : event = .executeCompleted answer)
    (output : step.1.console.executor.output = Executor.outputOf answer)
    (silent : exchange.among step.2 = []) : ExecutorStep c event step

theorem executorStep_press (c : Controller) (now : Timestamp) (key : Key) :
    ExecutorStep c (.key key) (c.handle now (.key key)) := by
  have turn := c.console.executorTurn_press key
  unfold handle
  dsimp only
  generalize c.console.press key = step at turn
  have executor := executor_perform (c.withConsole step.2) step.1
  have sends := among_perform (c.withConsole step.2) step.1
  cases turn with
  | kept output silent =>
    rw [silent] at sends
    exact .kept (by simp) (by rw [executor]; exact output) sends
  | refused idle output silent =>
    rw [silent] at sends
    exact .refused (by simp) idle (by rw [executor]; exact output) sends
  | begun idle inked output sent =>
    rw [sent] at sends
    exact .begun (by simp) idle inked (by rw [executor]; exact output) sends

theorem executorStep_aside (c : Controller) (now : Timestamp) {event : Event}
    (other : ∀ answer, event ≠ .executeCompleted answer) :
    ExecutorStep c event (c.handle now event) := by
  cases event with
  | key key => exact c.executorStep_press now key
  | resize => exact .kept other rfl rfl
  | pollTick => exact .kept other rfl (c.among_poll _)
  | pollCompleted ticket answer =>
    have executor (console : Console) (outcome : PollOutcome Failure) :
        (console.showPollOutcome now outcome).executor = console.executor := by
      cases outcome <;> rfl
    exact .kept other (congrArg Executor.output (executor _ _)) rfl
  | killCompleted ids gone answer =>
    cases answer with
    | ok response =>
      obtain ⟨notice, finished⟩ := c.exists_finishKill ids gone response
      rw [handle, finished]
      exact .kept other rfl rfl
    | error failure => exact .kept other rfl rfl
  | executeCompleted answer => exact (other answer rfl).elim
  | detailLoaded requestId answer =>
    obtain ⟨detail, resolved⟩ := exists_resolveDetail c.console requestId answer
    exact .kept other (congrArg (·.executor.output) resolved) rfl
  | databasesLoaded answer => cases answer <;> exact .kept other rfl rfl

theorem executorStep_handle (c : Controller) (now : Timestamp) (event : Event) :
    ExecutorStep c event (c.handle now event) := by
  by_cases report : ∃ answer, event = .executeCompleted answer
  · obtain ⟨answer, rfl⟩ := report
    exact .answered rfl rfl rfl
  · exact c.executorStep_aside now (not_exists.mp report)

theorem statement_of_handle {now : Timestamp} {event : Event} {q : Statement}
    (sent : q ∈ exchange.among (c.handle now event).2) :
    q = c.console.executor.statement ∧ q.query ≠ "" ∧ c.console.executor.isRunning = false := by
  cases c.executorStep_handle now event with
  | begun _ idle inked _ sends =>
    rw [sends] at sent
    obtain rfl := List.mem_singleton.mp sent
    exact ⟨rfl, inked, idle⟩
  | kept _ _ silent | refused _ _ _ silent | answered _ _ silent =>
    rw [silent] at sent
    cases sent

theorem effects_execute {now : Timestamp} {key : Key}
    (means : c.console.command key = .executor .execute)
    (idle : c.console.executor.output ≠ .running)
    (inked : Text.trim c.console.executor.query ≠ "") :
    (c.handle now (.key key)).2 =
      [.send (.execute (Text.trim c.console.executor.query) c.console.executor.database?)] := by
  have action : (c.console.press key).1 =
      .execute (Text.trim c.console.executor.query) c.console.executor.database? := by
    rw [Console.press_eq_obey, means]
    exact Console.action_execute idle inked
  unfold handle
  dsimp only
  rw [action]
  rfl

/-! ### Runs -/

/-- What the executor shows and which statement it waits for. -/
inductive Executed (origin : Controller × List Effect) (events : List (Timestamp × Event)) :
    List (Statement × Nat) → ExecutorOutput → Prop where
  | idle (none : exchange.sent origin events = []) : Executed origin events [] .idle
  | running {q : Statement} {n : Nat} (last : n + 1 = (exchange.sent origin events).length) :
    Executed origin events [(q, n)] .running
  | refused : Executed origin events [] (.failed (.refused .emptyQuery))
  /-- The last report was made by the last statement. -/
  | answered {before later : List (Timestamp × Event)} {told : Timestamp}
    {answer : Except Failure ExecuteResult} {q : Statement} {n : Nat}
    (split : events = before ++ (told, .executeCompleted answer) :: later)
    (silent : ∀ event ∈ later, ∀ answer, event.2 ≠ .executeCompleted answer)
    (waited : exchange.Open origin before [(q, n)])
    (sent : (exchange.sent origin events)[n]? = some q)
    (last : n + 1 = (exchange.sent origin events).length) :
    Executed origin events [] (Executor.outputOf answer)

section
variable {origin : Controller × List Effect} {events : List (Timestamp × Event)}
  {waiting : List (Statement × Nat)} {output : ExecutorOutput}

theorem Executed.running_iff (h : Executed origin events waiting output) :
    output = .running ↔ waiting.length = 1 := by
  cases h with
  | idle | refused => exact ⟨nofun, nofun⟩
  | running => exact ⟨fun _ => rfl, fun _ => rfl⟩
  | @answered _ _ _ answer =>
    constructor
    · intro running
      unfold Executor.outputOf at running
      split at running <;> cases running
    · nofun

theorem Executed.waiting_eq_nil (h : Executed origin events waiting output)
    (idle : output ≠ .running) : waiting = [] := by
  cases h with
  | running => exact (idle rfl).elim
  | idle | refused | answered => rfl

theorem Executed.last_of_waiting {before after : List (Statement × Nat)} {q : Statement} {n : Nat}
    (h : Executed origin events (before ++ (q, n) :: after) output) :
    before = [] ∧ after = [] ∧ n + 1 = (exchange.sent origin events).length := by
  generalize split : before ++ (q, n) :: after = waiting at h
  cases h with
  | running last =>
    rcases List.append_eq_singleton_iff.mp split with ⟨rfl, only⟩ | ⟨-, none⟩
    · obtain ⟨same, rfl⟩ := List.cons.inj only
      obtain ⟨-, rfl⟩ := Prod.mk.inj same
      exact ⟨rfl, rfl, last⟩
    · cases none
  | idle | refused | answered => simp at split

/-- A step that is no report, sends no statement and leaves the outcome alone. -/
theorem Executed.extend (h : Executed origin events waiting output) {event : Timestamp × Event}
    (other : ∀ answer, event.2 ≠ .executeCompleted answer)
    (silent : exchange.among ((origin.1.through events).handle event.1 event.2).2 = []) :
    Executed origin (events ++ [event]) waiting output := by
  have same : exchange.sent origin (events ++ [event]) = exchange.sent origin events :=
    exchange.sent_concat_of_silent origin silent
  cases h with
  | idle none => exact .idle (same.trans none)
  | running last => exact .running (same ▸ last)
  | refused => exact .refused
  | @answered before later told answer _ _ split quiet waited sent last =>
    have split : events ++ [event] =
        before ++ (told, .executeCompleted answer) :: (later ++ [event]) := by
      rw [split, List.append_assoc, List.cons_append]
    have quiet : ∀ e ∈ later ++ [event], ∀ answer, e.2 ≠ .executeCompleted answer :=
      List.forall_mem_append.mpr ⟨quiet, List.forall_mem_singleton.mpr other⟩
    exact .answered split quiet waited (same ▸ sent) (same ▸ last)

theorem Begun.executed {options : Engine.Options} (begun : Begun options origin) :
    Executed origin [] (exchange.among origin.2).zipIdx origin.1.console.executor.output := by
  have start : exchange.among origin.2 = [] ∧ origin.1.console.executor.output = .idle := by
    cases begun with
    | unstarted => exact ⟨rfl, rfl⟩
    | started paused =>
      exact ⟨among_start _ paused, congrArg Executor.output (executor_start _ paused)⟩
  rw [start.1, start.2]
  exact .idle ((exchange.sent_nil origin).trans start.1)

theorem Begun.executed_of_open {options : Engine.Options} (begun : Begun options origin)
    (run : exchange.Open origin events waiting) :
    Executed origin events waiting (origin.1.through events).console.executor.output := by
  induction run with
  | origin => exact begun.executed
  | @aside events waiting event run aside ih =>
    rw [through_concat, Exchange.next]
    cases (origin.1.through events).executorStep_handle event.1 event.2 with
    | kept other output silent =>
      rw [output, silent, List.zipIdx_nil, List.append_nil]
      exact ih.extend other silent
    | refused _ idle output silent =>
      have none := ih.waiting_eq_nil (Executor.output_ne_running idle)
      rw [output, silent, none]
      exact .refused
    | begun _ idle _ output sends =>
      have none := ih.waiting_eq_nil (Executor.output_ne_running idle)
      rw [output, sends, none]
      refine .running ?_
      rw [Exchange.sent_concat, sends, List.length_append, List.length_singleton]
    | answered told => exact (aside ⟨"", none⟩ ⟨_, told⟩).elim
  | @report events before after q n event run reports ih =>
    -- The report names no statement, but only one has been waiting.
    obtain ⟨answer, told⟩ := reports
    rw [through_concat, Exchange.next]
    cases (origin.1.through events).executorStep_handle event.1 event.2 with
    | kept other | refused other | begun other => exact (other answer told).elim
    | answered same output silent =>
      obtain rfl := Event.executeCompleted.inj (told.symm.trans same)
      obtain ⟨rfl, rfl, last⟩ := ih.last_of_waiting
      have split : events ++ [event] = events ++ (event.1, .executeCompleted answer) :: [] := by
        rw [← told]
      have same : exchange.sent origin (events ++ [event]) = exchange.sent origin events :=
        exchange.sent_concat_of_silent origin silent
      rw [output, silent]
      exact .answered split (List.forall_mem_nil _) run
        (same ▸ run.getElem? List.mem_cons_self) (same ▸ last)

/-- At most one statement is under way, and the executor waits while one is. What it shows otherwise
is the report on the last statement that was sent. -/
theorem one_statement_is_under_way {options : Engine.Options} (begun : Begun options origin)
    (run : exchange.Open origin events waiting) :
    let c := origin.1.through events
    let x := c.console.executor
    (x.output = .running ↔ waiting.length = 1) ∧ waiting.length ≤ 1 ∧
    ((x.output = .idle ∧ exchange.sent origin events = []) ∨ x.output = .running ∨
      x.output = .failed (.refused .emptyQuery) ∨
      ∃ before told answer later q n,
        events = before ++ (told, .executeCompleted answer) :: later ∧
        (∀ event ∈ later, ∀ answer, event.2 ≠ .executeCompleted answer) ∧
        exchange.Open origin before [(q, n)] ∧
        (exchange.sent origin events)[n]? = some q ∧
        n + 1 = (exchange.sent origin events).length ∧
        x.output = Executor.outputOf answer) ∧
    (∀ now event, ∀ q ∈ exchange.among (c.handle now event).2,
      q.query = Text.trim x.query ∧ q.query ≠ "" ∧ q.db = x.database? ∧
        ∀ name, q.db = some name → name ∈ x.databases) ∧
    ∀ now key, c.console.command key = .executor .execute → x.output ≠ .running →
      Text.trim x.query ≠ "" →
      (c.handle now (.key key)).2 = [.send (.execute (Text.trim x.query) x.database?)] := by
  intro c x
  have executed : Executed origin events waiting x.output := begun.executed_of_open run
  refine ⟨executed.running_iff, ?_, ?_, ?_,
    fun now key means idle inked => effects_execute means idle inked⟩
  · by_cases running : x.output = .running
    · exact Nat.le_of_eq (executed.running_iff.mp running)
    · rw [executed.waiting_eq_nil running]
      exact Nat.zero_le 1
  · generalize x.output = output at executed
    cases executed with
    | idle none => exact .inl ⟨rfl, none⟩
    | running => exact .inr (.inl rfl)
    | refused => exact .inr (.inr (.inl rfl))
    | answered split silent waited sent last =>
      exact .inr (.inr (.inr ⟨_, _, _, _, _, _, split, silent, waited, sent, last, rfl⟩))
  · intro now event q sent
    obtain ⟨rfl, inked, -⟩ := statement_of_handle sent
    exact ⟨rfl, inked, rfl, fun name chosen => Executor.mem_of_database? chosen⟩

/-- On the page of the executor, a statement is typed and sent. -/
def typed : List (Timestamp × Event) :=
  [(0, .key { code := .tab }), (1, .key { code := .tab }), (2, .key { code := .char 's' }),
    (3, .key { code := .enter })]

theorem typed_is_under_way :
    let origin := (ofOptions {}).start false
    let report : Timestamp × Event := (4, .executeCompleted (.ok (.message "done")))
    exchange.Open origin typed [(⟨"s", none⟩, 0)] ∧
      exchange.Open origin (typed ++ [report]) [] ∧
      (origin.1.through typed).console.executor.output = .running ∧
      (origin.1.through (typed ++ [report])).console.executor.output ≠ .running ∧
      ∃ q ∈ exchange.among ((origin.1.through (typed.take 3)).handle 3 (.key { code := .enter })).2,
        q.query ≠ "" := by
  intro origin report
  have begun : Begun {} origin := .started false
  have opened : exchange.Open origin [] [] := .origin
  have silent : ∀ event ∈ typed, ∀ a, ¬exchange.Reports event.2 a := by
    rintro event member a ⟨answer, told⟩
    simp only [typed, List.mem_cons, List.not_mem_nil, or_false] at member
    rcases member with rfl | rfl | rfl | rfl <;> cases told
  have under : exchange.Open origin typed [(⟨"s", none⟩, 0)] := by
    have sends : exchange.among ((origin.1.through []).wanted typed) = [⟨"s", none⟩] := by
      decide +kernel
    have run := opened.asides silent
    rw [sends] at run
    exact run
  have reported : exchange.Open origin (typed ++ [report]) [] := by
    have last : exchange.Open origin typed ([] ++ (⟨"s", none⟩, 0) :: []) := under
    have none : exchange.next origin typed report = [] := by decide +kernel
    have run := last.report (show exchange.Reports report.2 ⟨"s", .none⟩ from ⟨_, rfl⟩)
    rw [none] at run
    exact run
  obtain ⟨waiting, before⟩ : ∃ waiting, exchange.Open origin (typed.take 3) waiting :=
    ⟨_, opened.asides fun event member => silent event (List.mem_of_mem_take (i := 3) member)⟩
  have sent : (⟨"s", none⟩ : Statement) ∈ exchange.among
      ((origin.1.through (typed.take 3)).handle 3 (.key { code := .enter })).2 := by
    obtain ⟨-, -, -, -, sends⟩ := one_statement_is_under_way begun before
    rw [sends 3 { code := .enter } rfl (by decide +kernel) (by decide +kernel)]
    decide +kernel
  refine ⟨under, reported, (one_statement_is_under_way begun under).1.mpr rfl, ?_, _, sent, ?_⟩
  · intro running
    cases (one_statement_is_under_way begun reported).1.mp running
  · exact ((one_statement_is_under_way begun before).2.2.2.1 3 _ _ sent).2.1

end

end Controller

end SessionMonitor
