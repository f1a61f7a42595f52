import SessionMonitor.Proofs.Console.Typing
import SessionMonitor.Proofs.Controller.Cursor
import SessionMonitor.Proofs.Controller.Kills

/-!
# Text and commands

In all states that can be reached, keys that type text or answer something do just that: they give
no command and leave the engine alone, but for the filter that they edit.
-/

namespace SessionMonitor.Controller

open Console (Busy Sound)

variable {c : Controller}

/-- Where keys go to the popup, the question, the filter or a statement, none but the interrupt
quits or polls. A letter is typed, in the filter and in a statement. -/
theorem typed_text_gives_no_command {options : Engine.Options} (reached : Reached options c)
    {key : Key} (plain : key.isInterrupt = false) :
    let before := c.console
    let action := (before.press key).1
    let after := (before.press key).2
    let asked := ∃ plan, before.mode = .confirm plan
    let typing := before.mode = .normal ∧ before.page = .executor
    (before.detail ≠ none ∨ asked ∨ typing → after.engine = before.engine) ∧
    (before.mode = .filter → action = .none ∧ after.engine = { before.engine with
      filter := after.engine.filter
      visible := View.positions before.engine.snapshot after.engine.filter
        before.engine.sorting }) ∧
    (before.detail ≠ none ∨ asked ∨ before.mode = .filter ∨ typing →
      after.quitting = before.quitting ∧
        action ≠ .quit ∧ action ≠ .togglePolling ∧ action ≠ .refresh) ∧
    (asked → after.mode = .normal) ∧
    (∀ plan, action = .kill plan → asked) ∧
    ((∃ query db, action = .execute query db) ∨ action = .loadDatabases → typing) ∧
    (action.isAdvice = true → before.mode = .normal ∧ before.page ≠ .executor) ∧
    (typing → key.control = false → ∀ ch, key.code = .char ch → action = .none ∧
      after = before.withExecutor
        { before.executor with query := before.executor.query.push ch }) ∧
    (before.mode = .filter → ∀ ch, key.code = .char ch → after.mode = .filter ∧
      after.engine.filter.query = before.engine.filter.query.push ch) := by
  intro before action after asked typing
  have sound : Sound before := reached.sound
  have closed_of_mode (mode : before.mode ≠ .normal) : before.detail = none :=
    sound.settled.resolve_left mode
  have closed_of_page (page : before.page = .executor) : before.detail = none :=
    not_not.mp fun opened => sound.covered (.inl opened) page
  refine ⟨?_, ?_, ?_, ?_, ?_, ?_, ?_, ?_, ?_⟩
  · intro situation
    have ⟨busy, unfiltered⟩ : Busy before ∧ (before.detail ≠ none ∨ before.mode ≠ .filter) := by
      rcases situation with opened | ⟨plan, mode⟩ | ⟨normal, page⟩
      · exact ⟨.inl opened, .inl opened⟩
      · exact ⟨.inr (.inl (by rw [mode]; nofun)), .inr (by rw [mode]; nofun)⟩
      · exact ⟨.inr (.inr page), .inr (by rw [normal]; nofun)⟩
    obtain ⟨page, mode, detail, executor, notice, changed⟩ := busy.exists_press plain unfiltered
    show (before.press key).2.engine = before.engine
    rw [changed]
  · intro mode
    have closed := closed_of_mode (by rw [mode]; nofun)
    refine ⟨?_, Console.engine_press_in_filter closed plain mode sound.coherent⟩
    exact congrArg Prod.fst (Console.press_in_filter closed plain mode)
  · intro situation
    have busy : Busy before := by
      rcases situation with opened | ⟨plan, mode⟩ | mode | ⟨-, page⟩
      · exact .inl opened
      · exact .inr (.inl (by rw [mode]; nofun))
      · exact .inr (.inl (by rw [mode]; nofun))
      · exact .inr (.inr page)
    exact ⟨busy.quitting plain, busy.action plain⟩
  · rintro ⟨plan, mode⟩
    have closed := closed_of_mode (by rw [mode]; nofun)
    obtain ⟨notice, changed⟩ := Console.press_in_question closed plain mode
    show (before.press key).2.mode = .normal
    rw [changed]
  · intro plan kill
    obtain ⟨asked, mode, -⟩ := (Console.turn_press before key).of_kill kill
    exact ⟨asked, mode⟩
  · intro own
    exact (Console.given_of_executor own).2
  · intro advice
    rcases Console.given_of_isAdvice advice with opened | list
    · exact ⟨sound.normal_of_opened opened, sound.covered (.inl opened)⟩
    · exact list
  · intro here plainer ch code
    have closed := closed_of_page here.2
    have pressed := Console.press_char_in_executor closed here.1 here.2 plainer code
    exact ⟨congrArg Prod.fst pressed, congrArg Prod.snd pressed⟩
  · intro mode ch code
    have closed := closed_of_mode (by rw [mode]; nofun)
    have pressed : after = _ :=
      congrArg Prod.snd (Console.press_char_in_filter closed plain mode code)
    rw [pressed]
    exact ⟨mode, rfl⟩

/-- The letter q is typed in the filter and on the page of the executor, and to the question it is
no. -/
theorem q_is_a_letter :
    let q : Key := { code := .char 'q' }
    let start := ((ofOptions {}).start false).1
    let filtering := (start.run [(0, .key { code := .char '/' })]).console
    let typing := (start.run [(0, .key { code := .tab }), (1, .key { code := .tab })]).console
    let asking := (start.run questioned).console
    q.isInterrupt = false ∧
    (filtering.mode = .filter ∧ (filtering.press q).1 = .none ∧
      (filtering.press q).2.engine.filter.query = "q" ∧
      (filtering.press q).2.quitting = filtering.quitting) ∧
    (typing.mode = .normal ∧ typing.page = .executor ∧ (typing.press q).1 = .none ∧
      (typing.press q).2.executor.query = "q" ∧ (typing.press q).2.engine = typing.engine) ∧
    asking.mode = .confirm ⟨[⟨1⟩], []⟩ ∧ (asking.press q).2.mode = .normal ∧
      (asking.press q).2.engine = asking.engine := by
  intro q start filtering typing asking
  have begun : Reached {} start := .initial (.started false)
  have plain : q.isInterrupt = false := by decide
  have filter : filtering.mode = .filter := by decide +kernel
  have page : typing.mode = .normal ∧ typing.page = .executor := by decide +kernel
  have question : asking.mode = .confirm ⟨[⟨1⟩], []⟩ := by decide +kernel
  obtain ⟨-, silent, calm, -, -, -, -, -, appends⟩ :=
    typed_text_gives_no_command (begun.run [(0, .key { code := .char '/' })]) plain
  obtain ⟨still, -, -, -, -, -, -, types, -⟩ :=
    typed_text_gives_no_command
      (begun.run [(0, .key { code := .tab }), (1, .key { code := .tab })]) plain
  obtain ⟨kept, -, -, closes, -⟩ := typed_text_gives_no_command (begun.run questioned) plain
  obtain ⟨none, typed⟩ := types page rfl 'q' rfl
  refine ⟨plain, ⟨filter, (silent filter).1, ?_, (calm (.inr (.inr (.inl filter)))).1⟩,
    ⟨page.1, page.2, none, ?_, still (.inr (.inr page))⟩,
    question, closes ⟨_, question⟩, kept (.inr (.inl ⟨_, question⟩))⟩
  · rw [(appends filter 'q' rfl).2]
    decide +kernel
  · rw [typed]
    decide +kernel

end SessionMonitor.Controller
