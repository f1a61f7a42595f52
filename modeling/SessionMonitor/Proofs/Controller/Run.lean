import Mathlib.Data.List.Induction
import SessionMonitor.Controller
import SessionMonitor.Proofs.Console.Modes

/-!
# Runs of the controller

Events one after the other, until the program ends. Keys apart, no event changes the mode or asks
for a kill.
-/

namespace SessionMonitor

open Console (Steady Settled)
open Engine (Moves)

namespace Console

variable (c : Console)

theorem steady_notify (words : String) : Steady c (c.notify words) :=
  ⟨.refl, rfl, rfl, id⟩

theorem steady_notifyError (words : String) : Steady c (c.notifyError words) :=
  ⟨.refl, rfl, rfl, id⟩

theorem steady_withExecutor (executor : Executor) : Steady c (c.withExecutor executor) :=
  ⟨.refl, rfl, rfl, id⟩

theorem steady_showPollOutcome (now : Timestamp) (outcome : PollOutcome Failure) :
    Steady c (c.showPollOutcome now outcome) := by
  cases outcome <;> exact ⟨.refl, rfl, rfl, id⟩

theorem steady_attachDetail (requestId : UInt64) : Steady c (c.attachDetail requestId) := by
  refine ⟨.refl, rfl, rfl, fun closed => ?_⟩
  rw [attachDetail, closed]
  rfl

theorem steady_resolveDetail (requestId : UInt64) (answer : Except Failure Advice) :
    Steady c (c.resolveDetail requestId answer).2 := by
  unfold resolveDetail
  split
  · exact .refl c
  · rename_i detail opened
    split
    · exact ⟨.refl, rfl, rfl, fun closed => by cases opened.symm.trans closed⟩
    · exact .refl c

end Console

namespace Controller

variable {c : Controller}

/-- A step that leaves the mode alone, opens no popup and asks for no kill. -/
structure Calm (c : Controller) (step : Controller × List Effect) : Prop where
  steady : Steady c.console step.1.console
  effects : ∀ plan, .send (.kill plan) ∉ step.2

theorem calm_of_steady {finish : Controller} (steady : Steady c.console finish.console) :
    Calm c (finish, []) :=
  ⟨steady, nofun⟩

theorem Calm.thenNotify {step : Controller × List Effect} (h : Calm c step) (words : String) :
    Calm c (thenNotify step words) :=
  ⟨h.steady.trans (step.1.console.steady_notify words), h.effects⟩

theorem calm_poll {issued : Option Ticket × Engine} (moves : Moves c.console.engine issued.2) :
    Calm c (c.poll issued) := by
  refine ⟨Console.steady_withEngine moves, ?_⟩
  rintro plan sent
  obtain ⟨ticket, -, same⟩ := List.mem_map.mp sent
  cases same

theorem calm_refresh (c : Controller) : Calm c c.refresh :=
  calm_poll (.perform .refl .requestRefresh nofun)

theorem calm_pause (c : Controller) : Calm c c.pause :=
  ⟨Console.steady_withEngine (.perform .refl .pausePolling nofun), by simp [pause]⟩

theorem resume_eq (c : Controller) :
    c.resume = (c.withEngine c.console.engine.resumePolling.2,
      match c.console.engine.resumePolling.1 with
      | some ticket => [.startTimer, .send (.snapshot ticket)]
      | none => []) := by
  unfold resume
  generalize c.console.engine.resumePolling = issued
  obtain ⟨ticket, engine⟩ := issued
  cases ticket <;> rfl

theorem calm_resume (c : Controller) : Calm c c.resume := by
  have moves : Moves c.console.engine c.console.engine.resumePolling.2 :=
    .perform .refl .resumePolling nofun
  rw [resume_eq]
  refine ⟨Console.steady_withEngine moves, fun plan => ?_⟩
  cases c.console.engine.resumePolling.1 <;> simp

theorem calm_cancelDetail (c : Controller) : Calm c c.cancelDetail := by
  refine ⟨.refl _, fun plan sent => ?_⟩
  obtain ⟨requestId, -, same⟩ := List.mem_map.mp sent
  cases same

theorem calm_fetchDetail (c : Controller) (kind : DetailKind) (query : String) :
    Calm c (c.fetchDetail kind query) := by
  refine ⟨c.console.steady_attachDetail _, fun plan sent => ?_⟩
  rcases List.mem_append.mp sent with cancelled | fetched
  · exact c.calm_cancelDetail.effects plan cancelled
  · cases List.mem_singleton.mp fetched

theorem calm_perform (c : Controller) {action : Action} (harmless : ∀ plan, action ≠ .kill plan) :
    Calm c (c.perform action) := by
  cases action with
  | none | quit => exact calm_of_steady (.refl _)
  | togglePolling =>
    simp only [perform]
    split
    · exact c.calm_pause.thenNotify _
    · exact c.calm_resume.thenNotify _
  | refresh => exact c.calm_refresh
  | kill plan => exact (harmless plan rfl).elim
  | execute query db => exact ⟨.refl _, by simp [perform]⟩
  | fetchDetail kind query => exact c.calm_fetchDetail kind query
  | closeDetail => exact c.calm_cancelDetail
  | loadDatabases => exact ⟨c.console.steady_notify _, by simp [perform]⟩

theorem calm_start (c : Controller) (paused : Bool) : Calm c (c.start paused) := by
  have begun : Calm c (if paused then thenNotify c.refresh "Polling paused, press p to resume"
      else c.resume) := by
    split
    · exact c.calm_refresh.thenNotify _
    · exact c.calm_resume
  refine ⟨begun.steady, fun plan sent => ?_⟩
  rcases List.mem_append.mp sent with early | late
  · exact begun.effects plan early
  · cases List.mem_singleton.mp late

/-- Whatever a kill is reported to have come to, the engine goes on in the same way. -/
theorem exists_finishKill (c : Controller) (ids gone : List SessionId) (response : KillResponse) :
    ∃ notice, c.finishKill ids gone response =
      (c.withConsole { c.console with
          engine := (c.console.engine.completeKill ids).2
          notice := notice },
        [.send (.snapshot (c.console.engine.completeKill ids).1)]) := by
  unfold finishKill
  dsimp only
  split <;> exact ⟨_, rfl⟩

theorem calm_finishKill (c : Controller) (ids gone : List SessionId) (response : KillResponse) :
    Calm c (c.finishKill ids gone response) := by
  have moves : Moves c.console.engine (c.console.engine.completeKill ids).2 :=
    .perform .refl (.completeKill ids) nofun
  obtain ⟨notice, finished⟩ := c.exists_finishKill ids gone response
  rw [finished]
  exact ⟨⟨moves, rfl, rfl, id⟩, by simp⟩

theorem steady_finishPoll (c : Controller) (now : Timestamp) (ticket : Ticket)
    (answer : Except Failure Snapshot) :
    Steady c.console (c.finishPoll now ticket answer).console :=
  (Console.steady_withEngine (.perform .refl (.resolvePoll ticket answer) nofun)).trans
    (Console.steady_showPollOutcome _ now _)

theorem calm_handle (c : Controller) (now : Timestamp) {event : Event}
    (other : ∀ key, event ≠ .key key) : Calm c (c.handle now event) := by
  cases event with
  | key key => exact (other key rfl).elim
  | resize => exact calm_of_steady (.refl _)
  | pollTick => exact calm_poll (.perform .refl .pollTick nofun)
  | pollCompleted ticket answer => exact calm_of_steady (c.steady_finishPoll now ticket answer)
  | killCompleted ids gone answer =>
    cases answer with
    | ok response => exact c.calm_finishKill ids gone response
    | error failure => exact calm_of_steady (c.console.steady_notifyError _)
  | executeCompleted answer => exact calm_of_steady (c.console.steady_withExecutor _)
  | detailLoaded requestId answer =>
    exact calm_of_steady (c.console.steady_resolveDetail requestId answer)
  | databasesLoaded answer =>
    cases answer with
    | ok names => exact calm_of_steady (c.console.steady_withExecutor _)
    | error failure => exact calm_of_steady (c.console.steady_notifyError _)

/-! ### Runs -/

/-- The state after an event. Once the program has ended, events change nothing. -/
def advance (c : Controller) (event : Timestamp × Event) : Controller :=
  if c.console.quitting then c else (c.handle event.1 event.2).1

def run (c : Controller) (events : List (Timestamp × Event)) : Controller :=
  events.foldl advance c

inductive Initial (options : Engine.Options) : Controller → Prop where
  | unstarted : Initial options (ofOptions options)
  | started (paused : Bool) : Initial options ((ofOptions options).start paused).1

def NoKey (events : List (Timestamp × Event)) : Prop :=
  ∀ event ∈ events, ∀ key, event.2 ≠ .key key

theorem run_append (c : Controller) (first second : List (Timestamp × Event)) :
    c.run (first ++ second) = (c.run first).run second :=
  List.foldl_append

theorem steady_perform (c : Controller) (action : Action) :
    Steady c.console (c.perform action).1.console := by
  cases action with
  | kill plan => exact .refl _
  | _ => exact (c.calm_perform (by simp)).steady

theorem turn_handle (c : Controller) (now : Timestamp) (key : Key) :
    ∃ step, Console.Turn c.console key step ∧
      Steady step.2 (c.handle now (.key key)).1.console :=
  ⟨c.console.press key, Console.turn_press c.console key,
    steady_perform (c.withConsole (c.console.press key).2) (c.console.press key).1⟩

theorem steady_advance (c : Controller) {event : Timestamp × Event}
    (other : ∀ key, event.2 ≠ .key key) : Steady c.console (c.advance event).console := by
  unfold advance
  split
  · exact .refl _
  · exact (c.calm_handle event.1 other).steady

theorem steady_run (c : Controller) {events : List (Timestamp × Event)} (noKey : NoKey events) :
    Steady c.console (c.run events).console := by
  induction events generalizing c with
  | nil => exact .refl _
  | cons event rest ih =>
    obtain ⟨other, later⟩ := List.forall_mem_cons.mp noKey
    exact (c.steady_advance other).trans (ih (c.advance event) later)

theorem moves_handle (c : Controller) (now : Timestamp) (event : Event) :
    Moves c.console.engine (c.handle now event).1.console.engine := by
  cases event with
  | key key =>
    obtain ⟨step, turn, performed⟩ := c.turn_handle now key
    exact turn.engine.trans performed.engine
  | _ => exact (c.calm_handle now (by simp)).steady.engine

theorem moves_advance (c : Controller) (event : Timestamp × Event) :
    Moves c.console.engine (c.advance event).console.engine := by
  unfold advance
  split
  · exact .refl
  · exact c.moves_handle event.1 event.2

theorem settled_advance (settled : Settled c.console) (event : Timestamp × Event) :
    Settled (c.advance event).console := by
  obtain ⟨now, event⟩ := event
  cases event with
  | key key =>
    unfold advance
    split
    · exact settled
    · obtain ⟨step, turn, performed⟩ := c.turn_handle now key
      exact performed.settled (turn.settled settled)
  | _ => exact (c.steady_advance (by simp)).settled settled

section
variable {options : Engine.Options} {start : Controller} (initial : Initial options start)
  (events : List (Timestamp × Event))
include initial

theorem Initial.steady : Steady (Console.ofOptions options) start.console := by
  cases initial with
  | unstarted => exact .refl _
  | started paused => exact ((ofOptions options).calm_start paused).steady

theorem Initial.moves_run : Moves (.ofOptions options) (start.run events).console.engine := by
  induction events using List.reverseRecOn with
  | nil => exact initial.steady.engine
  | append_singleton events last ih =>
    rw [run_append]
    exact ih.trans (moves_advance _ last)

theorem Initial.settled_run : Settled (start.run events).console := by
  induction events using List.reverseRecOn with
  | nil => exact initial.steady.settled (.inl rfl)
  | append_singleton events last ih =>
    rw [run_append]
    exact settled_advance ih last

end

end Controller

end SessionMonitor
