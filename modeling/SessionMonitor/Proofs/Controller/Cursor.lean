import SessionMonitor.Proofs.Console.Cursor
import SessionMonitor.Proofs.Controller.Answers
import SessionMonitor.Proofs.Screen.SessionTable

/-!
# States that can be reached

Keys and events, whatever they are and however they follow each other, leave the cursor on a row.
They open the popup only in normal mode, and the popup, the filter and the question only where the
sessions are shown.
-/

namespace SessionMonitor.Controller

open Console (OnRow Sound Steady)

variable {c : Controller}

/-! ### Steps -/

theorem sound_perform (sound : Sound c.console) (action : Action) :
    Sound (c.perform action).1.console := by
  obtain ⟨scheduler, detail, notice, performed⟩ := c.exists_perform action
  have steady := c.steady_perform action
  rw [performed] at steady ⊢
  exact sound.of_steady steady rfl (sound.onRow.of_eq rfl rfl)

theorem page_showPollOutcome (console : Console) (now : Timestamp) (outcome : PollOutcome Failure) :
    (console.showPollOutcome now outcome).page = console.page := by
  cases outcome <;> rfl

theorem onRow_finishPoll (onRow : OnRow c.console) (now : Timestamp) (ticket : Ticket)
    (answer : Except Failure Snapshot) : OnRow (c.finishPoll now ticket answer).console := by
  cases fresh : c.console.engine.scheduler.isFresh ticket with
  | false =>
    simp only [finishPoll, Engine.resolvePoll_stale _ ticket answer fresh]
    exact onRow.of_eq rfl rfl
  | true =>
    simp only [finishPoll, Engine.resolvePoll_fresh _ ticket answer fresh]
    cases answer with
    | ok snapshot => exact Console.onRow_clampCursor _
    | error failure => exact onRow.of_eq rfl rfl

theorem sound_handle_aside (sound : Sound c.console) (now : Timestamp) {event : Event}
    (other : ∀ key, event ≠ .key key) : Sound (c.handle now event).1.console := by
  have steady := (c.calm_handle now other).steady
  cases event with
  | key key => exact (other key rfl).elim
  | pollCompleted ticket answer =>
    exact sound.of_steady steady (page_showPollOutcome _ now _)
      (onRow_finishPoll sound.onRow now ticket answer)
  | killCompleted ids gone answer =>
    cases answer with
    | ok response =>
      obtain ⟨notice, finished⟩ := c.exists_finishKill ids gone response
      rw [handle, finished] at steady ⊢
      exact sound.of_steady steady rfl (sound.onRow.of_eq rfl rfl)
    | error failure => exact sound.of_steady steady rfl (sound.onRow.of_eq rfl rfl)
  | detailLoaded requestId answer =>
    obtain ⟨detail, resolved⟩ := exists_resolveDetail c.console requestId answer
    have finish : (c.handle now (.detailLoaded requestId answer)).1.console =
        { c.console with detail := detail } := resolved
    rw [finish] at steady ⊢
    exact sound.of_steady steady rfl (sound.onRow.of_eq rfl rfl)
  | databasesLoaded answer =>
    cases answer <;> exact sound.of_steady steady rfl (sound.onRow.of_eq rfl rfl)
  | resize | pollTick | executeCompleted =>
    exact sound.of_steady steady rfl (sound.onRow.of_eq rfl rfl)

theorem sound_handle (sound : Sound c.console) (now : Timestamp) (event : Event) :
    Sound (c.handle now event).1.console := by
  cases event with
  | key key => exact sound_perform (c := c.withConsole _) (sound.press key) _
  | _ => exact sound_handle_aside sound now nofun

theorem sound_start (sound : Sound c.console) (paused : Bool) :
    Sound (c.start paused).1.console := by
  have steady := (c.calm_start paused).steady
  cases paused with
  | true => exact sound.of_steady steady rfl (sound.onRow.of_eq rfl rfl)
  | false =>
    obtain ⟨scheduler, resumed⟩ := c.exists_resume
    have finish : (c.start false).1.console =
        { c.console with engine := c.console.engine.withScheduler scheduler } := resumed
    rw [finish] at steady ⊢
    exact sound.of_steady steady rfl (sound.onRow.of_eq rfl rfl)

/-! ### Runs -/

/-- The states to which keys and events can lead. -/
inductive Reached (options : Engine.Options) : Controller → Prop where
  | initial {c : Controller} (initial : Initial options c) : Reached options c
  /-- A key has been pressed, and what it asks for has not been done yet. -/
  | pressed {c : Controller} (reached : Reached options c) (key : Key) :
      Reached options (c.withConsole (c.console.press key).2)
  | handled {c : Controller} (reached : Reached options c) (now : Timestamp) (event : Event) :
      Reached options (c.handle now event).1

theorem Reached.sound {options : Engine.Options} (reached : Reached options c) :
    Sound c.console := by
  induction reached with
  | initial initial =>
    have sound : Sound (ofOptions options).console := Console.sound_ofOptions options
    cases initial with
    | unstarted => exact sound
    | started paused => exact sound_start sound paused
  | pressed _ key ih => exact ih.press key
  | handled _ now event ih => exact sound_handle ih now event

theorem Reached.through {options : Engine.Options} (reached : Reached options c)
    (events : List (Timestamp × Event)) : Reached options (c.through events) := by
  induction events generalizing c with
  | nil => exact reached
  | cons event rest ih => exact ih (reached.handled event.1 event.2)

theorem Reached.run {options : Engine.Options} (reached : Reached options c)
    (events : List (Timestamp × Event)) : Reached options (c.run events) := by
  obtain ⟨handled, -, same⟩ := exists_through_of_run c events
  rw [same]
  exact reached.through handled

open Screen (SessionTable.draw SessionTable.drawn SessionTable.putHeading SessionTable.putRows
  SessionTable.ShowsCursor body picture)

/-- The one line of the table that stands out on the screen has the session that the cursor is on
and that keys act on. -/
theorem keys_act_on_the_row_that_stands_out {options : Engine.Options}
    (reached : Reached options c) :
    let console := c.console
    let e := console.engine
    (e.visibleSize = 0 → console.cursor = 0) ∧
    (e.visibleSize ≠ 0 → console.cursor < e.visibleSize) ∧
    (console.cursorSession? = none ↔ e.visibleSize = 0) ∧
    (e.visibleSize ≠ 0 →
      (∀ g a, a.inner.width ≠ 0 → 1 < a.inner.height →
        SessionTable.draw g a console = SessionTable.putRows (SessionTable.putHeading g a console)
          a (SessionTable.drawn console (a.inner.height - 1)) ∧
        (g.Unlit a.inner → SessionTable.ShowsCursor (SessionTable.draw g a console) a console)) ∧
      (console.page = .sessions → console.detail = none → ∀ width height,
        (body width height).inner.width ≠ 0 → 1 < (body width height).inner.height →
        SessionTable.ShowsCursor (picture console width height) (body width height) console)) ∧
    (console.detail = none → console.mode = .normal → console.page ≠ .executor → ∀ key : Key,
      (key.code = .char ' ' →
        (console.press key).1 = .none ∧ (console.press key).2.engine =
          match console.cursorSession? with
          | some session => e.toggleSelection session.id
          | none => e) ∧
      (key.code = .enter →
        (console.press key).2 = { console with
          detail := console.cursorSession?.map fun session =>
            .ofSession session .recommendations } ∧
        (console.press key).1 =
          match console.cursorSession?.bind Session.statement? with
          | some query => .fetchDetail .recommendations query
          | none => .none)) ∧
    (console.detail ≠ none → console.mode = .normal) ∧
    (console.detail ≠ none ∨ console.mode ≠ .normal →
      console.page = .sessions ∨ console.page = .dashboard) ∧
    ∀ plan, console.mode = .confirm plan → plan.live ≠ [] ∧ plan.live.Nodup := by
  intro console e
  have sound : Sound console := reached.sound
  refine ⟨sound.cursor_eq_zero, sound.cursor_lt, sound.cursorSession?_eq_none_iff, ?_, ?_,
    sound.normal_of_opened, sound.page_of_busy, sound.plan⟩
  · intro shown
    refine ⟨fun g a wide high => ⟨?_, fun unlit => ?_⟩, fun page closed width height => ?_⟩
    · exact Screen.SessionTable.draw_eq g a sound shown wide (by omega)
    · exact Screen.SessionTable.showsCursor_draw sound shown unlit wide high
    · exact Screen.showsCursor_picture sound page closed shown
  · intro closed normal page key
    exact ⟨Console.press_space closed normal page, Console.press_enter closed normal page⟩

/-- The only session stands out, and is marked, or its popup opened, or the question about it. -/
theorem only_row_is_acted_on :
    let start := ((ofOptions {}).start false).1
    let shown := (start.run (questioned.take 1)).console
    let opened := (start.run (questioned.take 1 ++ [(1, .key { code := .enter })])).console
    let asking := (start.run questioned).console
    shown.cursor < shown.engine.visibleSize ∧
      SessionTable.ShowsCursor (picture shown 80 24) (body 80 24) shown ∧
      (shown.press { code := .char ' ' }).2.engine.selection.ids = [⟨1⟩] ∧
      (shown.press { code := .enter }).2.detail.map (·.session.id) = some ⟨1⟩ ∧
      opened.detail ≠ none ∧ opened.mode = .normal ∧
      asking.mode = .confirm ⟨[⟨1⟩], []⟩ ∧ (asking.page = .sessions ∨ asking.page = .dashboard) ∧
      [(⟨1⟩ : SessionId)].Nodup := by
  intro start shown opened asking
  have begun : Reached {} start := .initial (.started false)
  obtain ⟨-, below, -, drawn, acts, -⟩ :=
    keys_act_on_the_row_that_stands_out (begun.run (questioned.take 1))
  have rows : shown.engine.visibleSize ≠ 0 := by decide +kernel
  obtain ⟨-, -, -, -, -, normal, -⟩ := keys_act_on_the_row_that_stands_out
    (begun.run (questioned.take 1 ++ [(1, .key { code := .enter })]))
  obtain ⟨-, -, -, -, -, -, page, plan⟩ :=
    keys_act_on_the_row_that_stands_out (begun.run questioned)
  have row : shown.cursorSession?.map (·.id) = some ⟨1⟩ := by decide +kernel
  obtain ⟨session, found, id⟩ := Option.map_eq_some_iff.mp row
  have popup : opened.detail ≠ none := by
    have some : opened.detail.isSome = true := by decide +kernel
    exact Option.isSome_iff_ne_none.mp some
  have mode : asking.mode = .confirm ⟨[⟨1⟩], []⟩ := by decide +kernel
  refine ⟨below rows, (drawn rows).2 rfl rfl 80 24 (by decide) (by decide), ?_, ?_, popup,
    normal popup, mode, page (.inr (mode ▸ nofun)), (plan _ mode).2⟩
  · rw [((acts rfl rfl nofun _).1 rfl).2, found]
    dsimp only
    rw [id]
    decide +kernel
  · rw [((acts rfl rfl nofun _).2 rfl).1, found]
    exact congrArg some id

end SessionMonitor.Controller
