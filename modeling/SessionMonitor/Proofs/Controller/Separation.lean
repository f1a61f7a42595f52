import SessionMonitor.Proofs.Console.Veil
import SessionMonitor.Proofs.Controller.Inquiries

/-!
# Statements, advice and databases

Polling and kills go on as if nothing else were asked for. Which answers about statements, advice
and databases come, when they come and what they say makes no difference to the engine, to the page,
the mode and the cursor, and to the requests about sessions.
-/

namespace SessionMonitor

def Event.drives : Event → Bool
  | .key _ | .pollTick | .pollCompleted _ _ | .killCompleted _ _ _ => true
  | .resize _ _ | .executeCompleted _ | .detailLoaded _ _ | .databasesLoaded _ => false

def Effect.drives : Effect → Bool
  | .send (.snapshot _) | .send (.kill _) | .startTimer | .stopTimer => true
  | _ => false

namespace Controller

variable {c d : Controller}

def veiled (c : Controller) : Controller :=
  ⟨c.console.veiled, none, 0⟩

/-- What can be seen of a step through the veil. -/
def seen (step : Controller × List Effect) : Console × List Effect :=
  (step.1.console.veiled, step.2.filter Effect.drives)

/-! ### Steps -/

theorem seen_veiled (c : Controller) (effects : List Effect) :
    seen (c, effects) = seen (c.veiled, effects) := by
  rw [seen, seen, veiled, Console.veiled_veiled]

theorem seen_poll (c : Controller) (issued : Option Ticket × Engine) :
    seen (c.poll issued) = seen (c.veiled.poll issued) :=
  seen_veiled _ _

theorem seen_resume (c : Controller) : seen c.resume = seen c.veiled.resume := by
  rw [resume_eq, resume_eq]
  exact seen_veiled _ _

theorem filter_cancelDetail (c : Controller) : c.cancelDetail.2.filter Effect.drives = [] := by
  unfold cancelDetail
  cases c.activeDetail <;> rfl

theorem veiled_attachDetail (console : Console) (requestId : UInt64) :
    (console.attachDetail requestId).veiled = console.veiled := by
  obtain ⟨engine, page, mode, cursor, detail⟩ := console
  cases detail <;> rfl

theorem seen_fetchDetail (c : Controller) (kind : DetailKind) (query : String) :
    seen (c.fetchDetail kind query) = (c.console.veiled, []) := by
  unfold seen fetchDetail
  dsimp only
  rw [List.filter_append, filter_cancelDetail]
  exact congrArg (Prod.mk · _) (veiled_attachDetail _ _)

theorem seen_perform_aside (c : Controller) {action : Action} (aside : action.veiled = .none) :
    seen (c.perform action) = (c.console.veiled, []) := by
  cases action with
  | none | quit | execute | loadDatabases => rfl
  | togglePolling | refresh | kill => cases aside
  | fetchDetail kind query => exact c.seen_fetchDetail kind query
  | closeDetail => exact congrArg (Prod.mk _) c.filter_cancelDetail

theorem seen_perform (c : Controller) (action : Action) :
    seen (c.perform action) = seen (c.veiled.perform action.veiled) := by
  cases action with
  | togglePolling =>
    have same : c.veiled.console.isLive = c.console.isLive := rfl
    simp only [perform, Action.veiled, same]
    split
    · exact seen_veiled _ _
    · exact c.seen_resume
  | refresh => exact c.seen_poll _
  | kill plan => exact seen_veiled _ _
  | _ => exact (c.seen_perform_aside rfl).trans (seen_veiled c [])

theorem seen_press (c : Controller) (now time : Timestamp) (key : Key) :
    seen (c.handle now (.key key)) = seen (c.veiled.handle time (.key key)) := by
  obtain ⟨action, console⟩ := Prod.mk.inj (c.console.seen_press key)
  show seen ((c.withConsole (c.console.press key).2).perform (c.console.press key).1) =
    seen ((c.veiled.withConsole (c.veiled.console.press key).2).perform
      (c.veiled.console.press key).1)
  rw [seen_perform, seen_perform (c.veiled.withConsole _), action]
  exact congrArg (fun console => seen (Controller.perform ⟨console, none, 0⟩ _)) console

theorem veiled_showPollOutcome (console : Console) (now time : Timestamp)
    (outcome : PollOutcome Failure) :
    (console.showPollOutcome now outcome).veiled =
      (console.veiled.showPollOutcome time outcome).veiled := by
  obtain ⟨engine, page, mode, cursor, detail⟩ := console
  cases outcome <;> cases detail <;> rfl

theorem seen_finishKill (c : Controller) (ids gone : List SessionId) (response : KillResponse) :
    seen (c.finishKill ids gone response) = seen (c.veiled.finishKill ids gone response) := by
  obtain ⟨notice, finished⟩ := c.exists_finishKill ids gone response
  obtain ⟨other, veiled⟩ := c.veiled.exists_finishKill ids gone response
  rw [finished, veiled]
  exact seen_veiled _ _

/-- An event about polling or kills does the same to what the veil leaves, whatever is behind it and
whenever it comes. -/
theorem seen_handle (c : Controller) (now time : Timestamp) {event : Event}
    (drives : event.drives = true) :
    seen (c.handle now event) = seen (c.veiled.handle time event) := by
  cases event with
  | key key => exact c.seen_press now time key
  | pollTick => exact c.seen_poll _
  | pollCompleted ticket answer =>
    exact congrArg (Prod.mk · _) (veiled_showPollOutcome _ now time _)
  | killCompleted ids gone answer =>
    cases answer with
    | ok response => exact c.seen_finishKill ids gone response
    | error failure => exact seen_veiled _ _
  | resize | executeCompleted | detailLoaded | databasesLoaded => cases drives

theorem veiled_resolveDetail (console : Console) (requestId : UInt64)
    (answer : Except Failure Advice) :
    (console.resolveDetail requestId answer).2.veiled = console.veiled := by
  unfold Console.resolveDetail
  cases opened : console.detail with
  | none => rfl
  | some d =>
    dsimp only
    split
    · rw [Console.veiled, Console.veiled, opened]
      rfl
    · rfl

/-- Any other event stays behind the veil. -/
theorem unseen_handle (c : Controller) (now : Timestamp) {event : Event}
    (aside : event.drives = false) :
    (c.handle now event).1.console.veiled = c.console.veiled ∧ (c.handle now event).2 = [] := by
  cases event with
  | key | pollTick | pollCompleted | killCompleted => cases aside
  | resize | executeCompleted => exact ⟨rfl, rfl⟩
  | detailLoaded requestId answer => exact ⟨veiled_resolveDetail _ requestId answer, rfl⟩
  | databasesLoaded answer => cases answer <;> exact ⟨rfl, rfl⟩

/-! ### Runs -/

/-- The events about polling and kills, without the times at which they come. -/
def driving (events : List (Timestamp × Event)) : List Event :=
  (events.map (·.2)).filter Event.drives

/-- What can be seen of a run through the veil: the console after each event about polling and
kills, and what is then wanted about them. -/
def record (c : Controller) : List (Timestamp × Event) → List (Console × List Effect)
  | [] => []
  | event :: rest =>
    if c.console.quitting then []
    else
      let step := c.handle event.1 event.2
      (if event.2.drives then [seen step] else []) ++ step.1.record rest

theorem record_of_quitting (quitting : c.console.quitting = true)
    (events : List (Timestamp × Event)) : c.record events = [] := by
  cases events with
  | nil => rfl
  | cons event rest => exact if_pos quitting

theorem run_cons (running : ¬c.console.quitting = true) (now : Timestamp) (event : Event)
    (rest : List (Timestamp × Event)) :
    c.run ((now, event) :: rest) = (c.handle now event).1.run rest := by
  rw [run, List.foldl_cons, advance, if_neg running]
  rfl

theorem record_driving (running : ¬c.console.quitting = true) (now : Timestamp) {event : Event}
    (drives : event.drives = true) (rest : List (Timestamp × Event)) :
    c.record ((now, event) :: rest) =
      seen (c.handle now event) :: (c.handle now event).1.record rest := by
  simp [record, running, drives]

theorem record_aside (running : ¬c.console.quitting = true) (now : Timestamp) {event : Event}
    (aside : event.drives = false) (rest : List (Timestamp × Event)) :
    c.record ((now, event) :: rest) = (c.handle now event).1.record rest := by
  simp [record, running, aside]

/-- A run looks like the run of its events about polling and kills alone. -/
theorem record_eq (alike : c.console.veiled = d.console.veiled)
    (events : List (Timestamp × Event)) :
    c.record events = d.record ((driving events).map (0, ·)) ∧
      (c.run events).console.veiled = (d.run ((driving events).map (0, ·))).console.veiled := by
  -- The runs drift apart behind the veil, so the induction is about any two that look alike.
  induction events generalizing c d with
  | nil => exact ⟨rfl, alike⟩
  | cons entry rest ih =>
    obtain ⟨now, event⟩ := entry
    have ends : c.console.quitting = d.console.quitting := (congrArg Console.quitting alike :)
    by_cases quitting : c.console.quitting = true
    · have quits := ends.symm.trans quitting
      rw [record_of_quitting quitting, record_of_quitting quits, run_of_quitting quitting,
        run_of_quitting quits]
      exact ⟨rfl, alike⟩
    · rw [run_cons quitting]
      cases drives : event.drives with
      | true =>
        have first : (driving ((now, event) :: rest)).map ((0 : Timestamp), ·) =
            (0, event) :: (driving rest).map (0, ·) := by
          simp [driving, drives]
        have same : seen (c.handle now event) = seen (d.handle 0 event) := by
          have veiled : c.veiled = d.veiled := by rw [Controller.veiled, alike, Controller.veiled]
          rw [seen_handle c now 0 drives, seen_handle d 0 0 drives, veiled]
        obtain ⟨record, run⟩ := ih (congrArg Prod.fst same)
        rw [first, record_driving quitting now drives, run_cons (ends ▸ quitting),
          record_driving (ends ▸ quitting) 0 drives]
        exact ⟨List.cons_eq_cons.mpr ⟨same, record⟩, run⟩
      | false =>
        have first : driving ((now, event) :: rest) = driving rest := by simp [driving, drives]
        rw [first, record_aside quitting now drives]
        exact ih ((c.unseen_handle now drives).1.trans alike)

/-- Two runs with the same keys, in which the same comes of polling and kills, look the same after
each of these events, whatever else comes in between. -/
theorem other_answers_are_not_seen (start : Controller) (first second : List (Timestamp × Event))
    (same : driving first = driving second) :
    start.record first = start.record second ∧
    (let one := (start.run first).console
     let other := (start.run second).console
     one.engine = other.engine ∧ one.page = other.page ∧ one.mode = other.mode ∧
       one.cursor = other.cursor ∧ one.quitting = other.quitting) ∧
    ∀ (c : Controller) (now : Timestamp) (event : Event), event.drives = false →
      (c.handle now event).1.console.veiled = c.console.veiled ∧ (c.handle now event).2 = [] := by
  obtain ⟨firstRecord, firstRun⟩ := record_eq (c := start) (d := start) rfl first
  obtain ⟨secondRecord, secondRun⟩ := record_eq (c := start) (d := start) rfl second
  rw [← same] at secondRecord secondRun
  have alike : (start.run first).console.veiled = (start.run second).console.veiled :=
    firstRun.trans secondRun.symm
  refine ⟨firstRecord.trans secondRecord.symm, ⟨?_, ?_, ?_, ?_, ?_⟩, ?_⟩
  · exact (congrArg Console.engine alike :)
  · exact (congrArg Console.page alike :)
  · exact (congrArg Console.mode alike :)
  · exact (congrArg Console.cursor alike :)
  · exact (congrArg Console.quitting alike :)
  · exact fun c now _ aside => c.unseen_handle now aside

/-- The only session is killed, after a look at the executor. -/
def inspected : List (Timestamp × Event) :=
  [(0, .pollCompleted ⟨1, 1, .resumed⟩ (.ok ⟨[.blank ⟨3⟩], 0, by decide⟩)),
    (1, .key { code := .tab }), (2, .key { code := .tab }),
    (3, .key { code := .char 'd', control := true }), (4, .key { code := .escape }),
    (5, .key { code := .char ' ' }), (6, .key { code := .char 'x' }),
    (7, .key { code := .char 'y' })]

/-- The same with answers about databases and statements. -/
def answered : List (Timestamp × Event) :=
  (8, .databasesLoaded (.ok ["sys"])) :: inspected.take 3 ++
    (9, .executeCompleted (.error .unreadable)) :: inspected.drop 3

theorem answered_is_not_seen :
    let start := ((ofOptions {}).start false).1
    driving inspected = driving answered ∧
      (start.run inspected).console.executor.databases = [] ∧
      (start.run answered).console.executor.databases = ["sys"] ∧
      start.record inspected = start.record answered ∧
      (start.run inspected).console.engine = (start.run answered).console.engine ∧
      (start.record answered).flatMap (·.2) = [.send (.kill ⟨[⟨3⟩], []⟩)] := by
  intro start
  have same : driving inspected = driving answered := rfl
  obtain ⟨record, ⟨engine, -⟩, -⟩ := other_answers_are_not_seen start inspected answered same
  exact ⟨same, by decide +kernel, by decide +kernel, record, engine, by decide +kernel⟩

end Controller

end SessionMonitor
