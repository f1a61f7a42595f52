import SessionMonitor.Proofs.Console.Edits
import SessionMonitor.Proofs.Controller.Inquiries
import SessionMonitor.Proofs.Controller.Kills
import SessionMonitor.Proofs.History

/-!
# What answers change

The snapshot, the summary and the history change only when an answer counts and brings a snapshot.
An answer that does not count, an answer that is a failure and the end of a kill change no more than
they are about.
-/

namespace SessionMonitor

/-- A snapshot is taken over: it is summed up and leaves its sample in the history. -/
def Observed.take (o : Observed) (snapshot : Snapshot) : Observed :=
  ⟨snapshot, .ofSnapshot snapshot, o.history.record snapshot⟩

namespace Engine

variable {ε : Type} (e : Engine) (ticket : Ticket)

theorem observed_resolvePoll (answer : Except ε Snapshot) :
    (e.resolvePoll ticket answer).2.observed =
      (if e.scheduler.isFresh ticket then answer.toOption else none).toList.foldl
        Observed.take e.observed := by
  cases fresh : e.scheduler.isFresh ticket with
  | false => rw [resolvePoll_stale e ticket answer fresh]; rfl
  | true => rw [resolvePoll_fresh e ticket answer fresh]; cases answer <;> rfl

end Engine

namespace Controller

variable (c : Controller) (now : Timestamp)

def observed : Observed :=
  c.console.engine.observed

/-- The snapshot that an event brings, if it counts. -/
def taken? : Event → Option Snapshot
  | .pollCompleted ticket answer =>
    if c.console.engine.scheduler.isFresh ticket then answer.toOption else none
  | _ => none

/-- The snapshots that some events bring and that count, oldest first. -/
def taken (c : Controller) : List (Timestamp × Event) → List Snapshot
  | [] => []
  | event :: rest => (c.taken? event.2).toList ++ taken (c.handle event.1 event.2).1 rest

variable {c} in
theorem taken?_eq_some_iff {event : Event} {snapshot : Snapshot} :
    c.taken? event = some snapshot ↔ ∃ ticket, event = .pollCompleted ticket (.ok snapshot) ∧
      c.console.engine.scheduler.isFresh ticket = true := by
  constructor
  · intro taken
    cases event with
    | pollCompleted ticket answer =>
      obtain ⟨fresh, brought⟩ := Option.ite_none_right_eq_some.mp taken
      cases answer with
      | ok other =>
        cases brought
        exact ⟨ticket, rfl, fresh⟩
      | error failure => cases brought
    | _ => cases taken
  · rintro ⟨ticket, rfl, fresh⟩
    exact if_pos fresh

/-! ### Only snapshots that count are taken over -/

theorem exists_resume : ∃ scheduler, c.resume.1.console =
    { c.console with engine := c.console.engine.withScheduler scheduler } := by
  rw [resume_eq]
  exact ⟨_, rfl⟩

theorem exists_perform (action : Action) : ∃ scheduler detail notice,
    (c.perform action).1.console =
      { c.console with
        engine := c.console.engine.withScheduler scheduler
        detail := detail
        notice := notice } := by
  cases action with
  | togglePolling =>
    obtain ⟨scheduler, resumed⟩ := c.exists_resume
    simp only [perform]
    split
    · exact ⟨_, _, _, rfl⟩
    · refine ⟨scheduler, c.console.detail, some ⟨.info, "Polling resumed"⟩, ?_⟩
      rw [thenNotify, resumed]
      rfl
  | _ => exact ⟨_, _, _, rfl⟩

theorem observed_perform (action : Action) : (c.perform action).1.observed = c.observed := by
  obtain ⟨scheduler, detail, notice, performed⟩ := c.exists_perform action
  rw [observed, performed]
  rfl

theorem observed_press (key : Key) : (c.handle now (.key key)).1.observed = c.observed := by
  show ((c.withConsole (c.console.press key).2).perform (c.console.press key).1).1.observed = _
  rw [observed_perform]
  exact (c.console.edited_press key).observed

theorem engine_showPollOutcome (console : Console) (outcome : PollOutcome Failure) :
    (console.showPollOutcome now outcome).engine = console.engine := by
  cases outcome <;> rfl

theorem engine_finishPoll (ticket : Ticket) (answer : Except Failure Snapshot) :
    (c.finishPoll now ticket answer).console.engine =
      (c.console.engine.resolvePoll ticket answer).2 :=
  engine_showPollOutcome now _ _

theorem exists_resolveDetail (console : Console) (requestId : UInt64)
    (answer : Except Failure Advice) :
    ∃ detail, (console.resolveDetail requestId answer).2 = { console with detail := detail } := by
  unfold Console.resolveDetail
  split
  · exact ⟨console.detail, rfl⟩
  · split
    · exact ⟨_, rfl⟩
    · exact ⟨console.detail, rfl⟩

theorem observed_handle (event : Event) :
    (c.handle now event).1.observed = (c.taken? event).toList.foldl Observed.take c.observed := by
  cases event with
  | key key => exact c.observed_press now key
  | resize | pollTick | executeCompleted => rfl
  | pollCompleted ticket answer =>
    show (c.finishPoll now ticket answer).console.engine.observed = _
    rw [engine_finishPoll, Engine.observed_resolvePoll]
    rfl
  | killCompleted ids gone answer =>
    cases answer with
    | ok response =>
      obtain ⟨notice, finished⟩ := c.exists_finishKill ids gone response
      exact (congrArg (·.1.observed) finished).trans rfl
    | error failure => rfl
  | detailLoaded requestId answer =>
    obtain ⟨detail, resolved⟩ := exists_resolveDetail c.console requestId answer
    exact (congrArg (·.engine.observed) resolved).trans rfl
  | databasesLoaded answer => cases answer <;> rfl

theorem observed_through (events : List (Timestamp × Event)) :
    (c.through events).observed = (c.taken events).foldl Observed.take c.observed := by
  induction events generalizing c with
  | nil => rfl
  | cons event rest ih =>
    rw [taken, List.foldl_append, ← observed_handle]
    exact ih _

/-! ### What the other answers change -/

variable {c} {ticket : Ticket}

theorem handle_stale (stale : c.console.engine.scheduler.isFresh ticket = false)
    (answer : Except Failure Snapshot) :
    c.handle now (.pollCompleted ticket answer) =
      (c.withEngine (c.console.engine.withScheduler
        { c.console.engine.scheduler with inFlight := c.console.engine.scheduler.inFlight - 1 }),
        []) := by
  simp only [handle, finishPoll, Engine.resolvePoll_stale _ ticket answer stale,
    Scheduler.accept_stale stale]
  rfl

theorem handle_failed (fresh : c.console.engine.scheduler.isFresh ticket = true)
    (failure : Failure) :
    let next := (c.handle now (.pollCompleted ticket (.error failure))).1
    next.console.engine = c.console.engine.withScheduler next.console.engine.scheduler ∧
      next.console.cursor = c.console.cursor := by
  simp only [handle, finishPoll, Engine.resolvePoll_fresh _ ticket _ fresh]
  exact ⟨rfl, rfl⟩

theorem handle_killed (c : Controller) (ids gone : List SessionId) (response : KillResponse) :
    let e := c.console.engine
    let step := c.handle now (.killCompleted ids gone (.ok response))
    step.1.console.engine =
        { e with selection := e.selection.eraseAll ids, scheduler := e.scheduler.issued } ∧
      step.2 = [.send (.snapshot (e.scheduler.nextTicket .outOfCycle))] := by
  obtain ⟨notice, finished⟩ := c.exists_finishKill ids gone response
  rw [handle, finished]
  exact ⟨rfl, rfl⟩

/-- An answer changes what it brings and nothing else: one that is late changes nothing, a failure
nothing that is shown or marked, and a kill takes the marks of its sessions. -/
theorem answers_change_what_they_bring (c : Controller) (now : Timestamp) :
    let e := c.console.engine
    (∀ event, (c.handle now event).1.observed ≠ c.observed → ∃ ticket snapshot,
      event = .pollCompleted ticket (.ok snapshot) ∧ e.scheduler.isFresh ticket = true) ∧
    (∀ ticket snapshot, e.scheduler.isFresh ticket = true →
      let next := (c.handle now (.pollCompleted ticket (.ok snapshot))).1
      next.observed = ⟨snapshot, .ofSnapshot snapshot, e.history.record snapshot⟩ ∧
        next.console.engine.history.samples =
          e.history.samples.drop (if e.history.capacity ≤ e.history.samples.length then 1 else 0) ++
            [e.history.sampleOf snapshot]) ∧
    (∀ ticket answer, e.scheduler.isFresh ticket = false →
      c.handle now (.pollCompleted ticket answer) =
        (c.withEngine (e.withScheduler
          { e.scheduler with inFlight := e.scheduler.inFlight - 1 }), [])) ∧
    (∀ ticket failure, e.scheduler.isFresh ticket = true →
      let next := (c.handle now (.pollCompleted ticket (.error failure))).1
      next.console.engine = e.withScheduler next.console.engine.scheduler ∧
        next.console.cursor = c.console.cursor) ∧
    (∀ ids gone failure,
      let step := c.handle now (.killCompleted ids gone (.error failure))
      step.1.console.engine = e ∧ step.2 = []) ∧
    (∀ ids gone response,
      let step := c.handle now (.killCompleted ids gone (.ok response))
      step.1.console.engine =
          { e with selection := e.selection.eraseAll ids, scheduler := e.scheduler.issued } ∧
        step.1.console.engine.selection.ids = e.selection.ids.filter (fun id => id ∉ ids) ∧
        step.2 = [.send (.snapshot (e.scheduler.nextTicket .outOfCycle))]) ∧
    ∀ events, (c.through events).observed = (c.taken events).foldl Observed.take c.observed := by
  intro e
  refine ⟨?_, ?_, fun ticket answer stale => handle_stale now stale answer,
    fun ticket failure fresh => handle_failed now fresh failure, fun _ _ _ => ⟨rfl, rfl⟩, ?_,
    c.observed_through⟩
  · intro event changed
    cases taken : c.taken? event with
    | none =>
      rw [observed_handle, taken] at changed
      exact (changed rfl).elim
    | some snapshot =>
      obtain ⟨ticket, brought, fresh⟩ := taken?_eq_some_iff.mp taken
      exact ⟨ticket, snapshot, brought, fresh⟩
  · intro ticket snapshot fresh next
    have taken : c.taken? (.pollCompleted ticket (.ok snapshot)) = some snapshot :=
      taken?_eq_some_iff.mpr ⟨ticket, rfl, fresh⟩
    have observed : next.observed = c.observed.take snapshot := by
      rw [observed_handle, taken]
      rfl
    exact ⟨observed, (congrArg (·.history.samples) observed).trans (History.record_samples _ _)⟩
  · intro ids gone response step
    obtain ⟨engine, polled⟩ := handle_killed now c ids gone response
    refine ⟨engine, ?_, polled⟩
    rw [engine]
    exact Selection.ids_eraseAll _ _

/-- An empty process list, a failure, a late answer and the end of a kill, where two sessions are
marked and the process list is asked for. -/
theorem empty_list_is_taken :
    let c := ((ofOptions { pruneSelection := false }).start false).1.through
      (marked ++ [(7, .pollTick)])
    let taken := c.handle 8 (.pollCompleted ⟨1, 4, .scheduled⟩ (.ok .empty))
    let failed := c.handle 8 (.pollCompleted ⟨1, 4, .scheduled⟩ (.error .unreadable))
    let late := c.handle 8 (.pollCompleted ⟨1, 2, .scheduled⟩ (.ok .empty))
    let killed := c.handle 8 (.killCompleted [⟨1⟩] [] (.ok ⟨none, none, [⟨1⟩], []⟩))
    taken.1.observed ≠ c.observed ∧ c.console.engine.scheduler.isFresh ⟨1, 4, .scheduled⟩ = true ∧
      taken.1.console.engine.history.samples.length = 4 ∧
      late.1.observed = c.observed ∧
      failed.1.console.engine.selection.ids = [⟨1⟩, ⟨2⟩] ∧
      killed.1.console.engine.selection.ids = [⟨2⟩] ∧
      killed.2 = [.send (.snapshot ⟨1, 5, .outOfCycle⟩)] := by
  intro c taken failed late killed
  obtain ⟨only, takes, stays, fails, -, kills, -⟩ := answers_change_what_they_bring c 8
  have fresh : c.console.engine.scheduler.isFresh ⟨1, 4, .scheduled⟩ = true := by decide +kernel
  have marks : c.console.engine.selection.ids = [⟨1⟩, ⟨2⟩] := by decide +kernel
  have sizes : c.console.engine.snapshot.size = 1 ∧
      c.console.engine.history.capacity = 10 ∧ c.console.engine.history.samples.length = 3 := by
    decide +kernel
  obtain ⟨observed, samples⟩ := takes ⟨1, 4, .scheduled⟩ .empty fresh
  have changed : taken.1.observed ≠ c.observed := by
    intro same
    have size := congrArg (·.snapshot.size) (observed.symm.trans same)
    exact absurd (size.trans sizes.1) (by decide)
  obtain ⟨ticket, snapshot, same, counts⟩ := only _ changed
  cases same
  obtain ⟨-, erased, polled⟩ := kills [⟨1⟩] [] ⟨none, none, [⟨1⟩], []⟩
  refine ⟨changed, counts, ?_, ?_, ?_, ?_, ?_⟩
  · rw [samples]
    simp [sizes]
  · exact congrArg (·.1.observed) (stays ⟨1, 2, .scheduled⟩ (.ok .empty) (by decide +kernel))
  · rw [(fails ⟨1, 4, .scheduled⟩ .unreadable fresh).1]
    exact marks
  · rw [erased, marks]
    decide
  · rw [polled]
    decide +kernel

end Controller

end SessionMonitor
