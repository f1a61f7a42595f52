import SessionMonitor.Proofs.Controller.Answers
import SessionMonitor.Screen.SessionTable
import SessionMonitor.Screen.StatusBar

/-!
# What is said about the session list

Whether a session list has come at all, and why the last request for one has failed, is what the
answers that count have brought: nothing else that happens is told in their place.
-/

namespace SessionMonitor

namespace Console

variable {c : Console}

/-- What the console keeps of the answers to requests for the session list. -/
def refreshed (c : Console) : Option Failure × Option Timestamp :=
  (c.pollFailure, c.updatedAt)

theorem refreshed_obeyList (c : Console) (command : ListCommand) :
    (c.obeyList command).2.refreshed = c.refreshed := by
  obtain ⟨engine, mode, cursor, detail, notice, quitting, changed⟩ := c.exists_obeyList command
  rw [changed]
  rfl

theorem refreshed_obey {command : Command} (given : Given c command) :
    (c.obey command).2.refreshed = c.refreshed := by
  cases command with
  | quit | nextPage => rfl
  | popup command =>
    obtain ⟨detail, changed⟩ := c.exists_obeyPopup command
    rw [obey, changed]
    rfl
  | answer yes =>
    obtain ⟨-, asked, mode⟩ := given
    obtain ⟨notice, changed⟩ := exists_answerQuestion mode yes
    rw [obey, changed]
    rfl
  | filter command => cases command <;> rfl
  | executor command =>
    obtain ⟨page, executor, changed⟩ := c.exists_obeyExecutor command
    rw [obey, changed]
    rfl
  | list command => exact c.refreshed_obeyList command

theorem refreshed_press (c : Console) (key : Key) : (c.press key).2.refreshed = c.refreshed := by
  rw [press_eq_obey]
  exact refreshed_obey (c.given_command key)

/-- The console says what has come of some answers: whether one of them has brought a list, and why
the last one has not. -/
structure Truthful (answers : List (Except Failure Snapshot)) (c : Console) : Prop where
  updated : c.updatedAt.isSome = true ↔ ∃ snapshot, .ok snapshot ∈ answers
  recorded : c.engine.history.samples ≠ [] ↔ ∃ snapshot, .ok snapshot ∈ answers
  failure : ∀ failure, c.pollFailure = some failure ↔ answers.getLast? = some (.error failure)

theorem Truthful.of_eq {answers : List (Except Failure Snapshot)} {finish : Console}
    (truthful : Truthful answers c) (refreshed : finish.refreshed = c.refreshed)
    (history : finish.engine.history = c.engine.history) : Truthful answers finish := by
  obtain ⟨failure, updated⟩ := Prod.mk.inj refreshed
  exact ⟨updated ▸ truthful.updated, history ▸ truthful.recorded, failure ▸ truthful.failure⟩

theorem Truthful.snapshot {answers : List (Except Failure Snapshot)} {finish : Console}
    {snapshot : Snapshot} (updated : finish.updatedAt.isSome = true)
    (recorded : finish.engine.history.samples ≠ []) (failure : finish.pollFailure = none) :
    Truthful (answers ++ [.ok snapshot]) finish := by
  have brought : Except.ok snapshot ∈ answers ++ [.ok snapshot] :=
    List.mem_append_right _ (List.mem_singleton_self _)
  refine ⟨⟨fun _ => ⟨snapshot, brought⟩, fun _ => updated⟩,
    ⟨fun _ => ⟨snapshot, brought⟩, fun _ => recorded⟩, fun other => ?_⟩
  rw [failure, List.getLast?_concat]
  exact ⟨nofun, nofun⟩

theorem Truthful.failed {answers : List (Except Failure Snapshot)} {finish : Console}
    {failure : Failure} (truthful : Truthful answers c) (updated : finish.updatedAt = c.updatedAt)
    (history : finish.engine.history = c.engine.history)
    (told : finish.pollFailure = some failure) :
    Truthful (answers ++ [.error failure]) finish := by
  have same : (∃ snapshot, .ok snapshot ∈ answers ++ [Except.error failure]) ↔
      ∃ snapshot, .ok snapshot ∈ answers := by simp
  refine ⟨?_, ?_, fun other => ?_⟩
  · rw [updated, same]
    exact truthful.updated
  · rw [history, same]
    exact truthful.recorded
  · rw [told, List.getLast?_concat]
    simp

end Console

namespace Screen

variable {c : Console}

theorem StatusBar.status_eq_failing_iff :
    (headerLine c)[2]? = some ⟨"Live (refresh failing)", .bold .red⟩ ↔
      c.isLive = true ∧ ∃ failure, c.pollFailure = some failure := by
  have status : (headerLine c)[2]? = some (pollStatus c.isLive c.pollFailure.isSome) := rfl
  rw [status]
  cases c.isLive <;> cases c.pollFailure <;> simp [pollStatus]

namespace SessionTable

theorem noMatch_ne_loading (query : String) :
    "No processes match \"" ++ query ++ "\"" ≠ "Loading process list..." := by
  intro same
  have first := congrArg (fun text => text.toList.head?) same
  simp at first

theorem emptyLine_eq_loading_iff :
    emptyLine c = .styled "Loading process list..." (.colored .yellow) ↔
      c.updatedAt = none ∧ c.pollFailure = none := by
  unfold emptyLine
  cases c.updatedAt with
  | none => cases c.pollFailure <;> simp [Line.styled, Style.bold, Style.colored]
  | some time =>
    dsimp only
    split <;> simp [Line.styled, Style.colored, noMatch_ne_loading]

theorem emptyLine_eq_unreachable_iff {words : String} :
    emptyLine c = .styled ("Cannot reach backend: " ++ words) (.bold .red) ↔
      c.updatedAt = none ∧ ∃ failure, c.pollFailure = some failure ∧ failure.message = words := by
  unfold emptyLine
  cases c.updatedAt with
  | none => cases c.pollFailure <;> simp [Line.styled, Style.bold, Style.colored]
  | some time =>
    dsimp only
    split <;> simp [Line.styled, Style.bold, Style.colored]

end SessionTable

end Screen

namespace Controller

open Console (Truthful)

variable {c : Controller}

/-- The answer that an event brings, if it counts. -/
def counted? (c : Controller) : Event → Option (Except Failure Snapshot)
  | .pollCompleted ticket answer =>
    if (c.console.engine.resolvePoll ticket answer).1.counts then some answer else none
  | _ => none

/-- The answers that some events bring and that count, oldest first. -/
def counted (c : Controller) : List (Timestamp × Event) → List (Except Failure Snapshot)
  | [] => []
  | event :: rest => (c.counted? event.2).toList ++ counted (c.handle event.1 event.2).1 rest

theorem counted_concat (c : Controller) (events : List (Timestamp × Event))
    (event : Timestamp × Event) : c.counted (events ++ [event]) =
      c.counted events ++ ((c.through events).counted? event.2).toList := by
  induction events generalizing c with
  | nil => exact List.append_nil _
  | cons first rest ih =>
    rw [List.cons_append, counted, counted, ih, List.append_assoc]
    rfl

/-! ### Events -/

theorem refreshed_perform (c : Controller) (action : Action) :
    (c.perform action).1.console.refreshed = c.console.refreshed := by
  obtain ⟨scheduler, detail, notice, performed⟩ := c.exists_perform action
  rw [performed]
  rfl

theorem refreshed_handle (c : Controller) (now : Timestamp) {event : Event}
    (other : ∀ ticket answer, event ≠ .pollCompleted ticket answer) :
    (c.handle now event).1.console.refreshed = c.console.refreshed := by
  cases event with
  | key key => exact (refreshed_perform _ _).trans (c.console.refreshed_press key)
  | pollCompleted ticket answer => exact (other ticket answer rfl).elim
  | killCompleted ids gone answer =>
    cases answer with
    | ok response =>
      obtain ⟨notice, finished⟩ := c.exists_finishKill ids gone response
      rw [handle, finished]
      rfl
    | error failure => rfl
  | detailLoaded requestId answer =>
    obtain ⟨detail, resolved⟩ := exists_resolveDetail c.console requestId answer
    exact (congrArg Console.refreshed resolved).trans rfl
  | databasesLoaded answer => cases answer <;> rfl
  | resize | pollTick | executeCompleted => rfl

theorem counted?_of_other {event : Event}
    (other : ∀ ticket answer, event ≠ .pollCompleted ticket answer) : c.counted? event = none := by
  cases event with
  | pollCompleted ticket answer => exact (other ticket answer rfl).elim
  | _ => rfl

theorem counted?_pollCompleted (c : Controller) (ticket : Ticket)
    (answer : Except Failure Snapshot) : c.counted? (.pollCompleted ticket answer) =
      if c.console.engine.scheduler.isFresh ticket then some answer else none := by
  rw [counted?, Engine.resolvePoll_counts]

theorem taken?_eq (c : Controller) (event : Event) :
    c.taken? event = (c.counted? event).bind Except.toOption := by
  cases event with
  | pollCompleted ticket answer =>
    rw [counted?_pollCompleted, taken?]
    split <;> rfl
  | _ => rfl

theorem history_handle (c : Controller) (now : Timestamp) {event : Event}
    (nothing : c.counted? event = none) :
    (c.handle now event).1.console.engine.history = c.console.engine.history := by
  have observed := c.observed_handle now event
  rw [taken?_eq, nothing] at observed
  exact congrArg Observed.history observed

theorem truthful_pollCompleted {answers : List (Except Failure Snapshot)}
    (truthful : Truthful answers c.console) (now : Timestamp) (ticket : Ticket)
    (answer : Except Failure Snapshot) :
    Truthful (answers ++ (c.counted? (.pollCompleted ticket answer)).toList)
      (c.handle now (.pollCompleted ticket answer)).1.console := by
  rw [counted?_pollCompleted]
  cases fresh : c.console.engine.scheduler.isFresh ticket with
  | false =>
    rw [handle_stale now fresh, if_neg Bool.false_ne_true, Option.toList_none, List.append_nil]
    exact truthful.of_eq rfl rfl
  | true =>
    simp only [handle, finishPoll, Engine.resolvePoll_fresh _ ticket answer fresh, if_true,
      Option.toList_some]
    cases answer with
    | ok snapshot => exact .snapshot rfl (History.samples_record_ne_nil _ _) rfl
    | error failure => exact truthful.failed rfl rfl rfl

theorem truthful_handle {answers : List (Except Failure Snapshot)}
    (truthful : Truthful answers c.console) (now : Timestamp) (event : Event) :
    Truthful (answers ++ (c.counted? event).toList) (c.handle now event).1.console := by
  by_cases other : ∀ ticket answer, event ≠ .pollCompleted ticket answer
  -- Only an answer about the session list can count; of any other event nothing is said.
  · have nothing := counted?_of_other (c := c) other
    rw [nothing, Option.toList_none, List.append_nil]
    exact truthful.of_eq (c.refreshed_handle now other) (c.history_handle now nothing)
  · simp only [not_forall, not_not] at other
    obtain ⟨ticket, answer, rfl⟩ := other
    exact truthful_pollCompleted truthful now ticket answer

/-! ### Runs -/

variable {start : Controller} {options : Engine.Options}

theorem Initial.truthful (initial : Initial options start) : Truthful [] start.console := by
  have unstarted : Truthful [] (ofOptions options).console := by
    refine ⟨?_, ?_, fun failure => ?_⟩ <;> simp [ofOptions, Console.ofOptions, Engine.ofOptions,
      History.ofCapacity]
  cases initial with
  | unstarted => exact unstarted
  | started paused =>
    cases paused with
    | true => exact unstarted.of_eq rfl rfl
    | false =>
      obtain ⟨scheduler, resumed⟩ := (ofOptions options).exists_resume
      have begun : ((ofOptions options).start false).1.console =
          { (ofOptions options).console with
            engine := (ofOptions options).console.engine.withScheduler scheduler } := resumed
      rw [begun]
      exact unstarted.of_eq rfl rfl

theorem Initial.truthful_through (initial : Initial options start)
    (events : List (Timestamp × Event)) :
    Truthful (start.counted events) (start.through events).console := by
  induction events using List.reverseRecOn with
  | nil => exact initial.truthful
  | append_singleton events last ih =>
    rw [counted_concat, through_concat]
    exact truthful_handle ih last.1 last.2

open Screen (StatusBar.headerLine SessionTable.emptyLine)

end Controller

end SessionMonitor
