import SessionMonitor.Proofs.Console.Edits
import SessionMonitor.Proofs.Engine.Marks

/-!
# Modes

Which keys lead into the question whether to kill, and which out of it. The question is opened by
one key, and the next key that the console takes closes it.
-/

namespace SessionMonitor.Console

open Engine (Moves)

variable {c : Console}

/-- A change that leaves the mode alone and opens no popup. -/
structure Steady (c finish : Console) : Prop where
  engine : Moves c.engine finish.engine
  mode : finish.mode = c.mode
  quitting : finish.quitting = c.quitting
  detail : c.detail = none → finish.detail = none

theorem Steady.refl (c : Console) : Steady c c :=
  ⟨.refl, rfl, rfl, id⟩

theorem Steady.trans {middle finish : Console} (h : Steady c middle) (next : Steady middle finish) :
    Steady c finish :=
  ⟨h.engine.trans next.engine, next.mode.trans h.mode, next.quitting.trans h.quitting,
    fun closed => next.detail (h.detail closed)⟩

theorem steady_withEngine {engine : Engine} (moves : Moves c.engine engine) :
    Steady c { c with engine := engine } :=
  ⟨moves, rfl, rfl, id⟩

/-! ### Keys that ask for no kill -/

/-- A key that leaves the mode alone and asks for no kill. -/
structure Quiet (c : Console) (step : Action × Console) : Prop where
  engine : Moves c.engine step.2.engine
  mode : step.2.mode = c.mode
  action : ∀ plan, step.1 ≠ .kill plan

theorem quiet_none {finish : Console} (engine : Moves c.engine finish.engine)
    (mode : finish.mode = c.mode) : Quiet c (.none, finish) :=
  ⟨engine, mode, nofun⟩

theorem quiet_askAdvice {kind : DetailKind} {opened : Option String × Console}
    (changed : ∃ detail, opened.2 = { c with detail := detail }) :
    Quiet c (askAdvice kind opened) := by
  obtain ⟨statement, finish⟩ := opened
  obtain ⟨detail, rfl⟩ := changed
  cases statement with
  | none => exact ⟨.refl, rfl, nofun⟩
  | some query => exact ⟨.refl, rfl, nofun⟩

theorem quiet_obeyPopup (c : Console) (command : PopupCommand) :
    Quiet c (c.obeyPopup command) := by
  cases command with
  | idle => exact quiet_none .refl rfl
  | close => exact ⟨.refl, rfl, nofun⟩
  | turn kind => exact quiet_askAdvice (c.exists_switchDetail kind)

theorem quiet_obeyExecutor (c : Console) (command : ExecutorCommand) :
    Quiet c (c.obeyExecutor command) := by
  obtain ⟨page, executor, changed⟩ := c.exists_obeyExecutor command
  refine ⟨?_, ?_, fun plan kill => ?_⟩
  · rw [changed]
    exact .refl
  · rw [changed]
  · rcases c.action_obeyExecutor command with none | ⟨query, db, run⟩ | load
    · cases none.symm.trans kill
    · cases run.symm.trans kill
    · cases load.symm.trans kill

theorem steady_toggleAtCursor (c : Console) : Steady c c.toggleAtCursor := by
  unfold toggleAtCursor
  split
  · rename_i session found
    refine steady_withEngine (.perform .refl (.toggleSelection session.id) ?_)
    rintro id same
    obtain rfl := Engine.Step.toggleSelection.inj same
    exact Engine.mem_visibleIds_of_visibleAt? found
  · exact .refl c

theorem steady_toggleAll (c : Console) : Steady c c.toggleAll := by
  refine steady_withEngine ?_
  split
  · exact .perform .refl .clearSelection nofun
  · exact .perform .refl .selectVisible nofun

/-! ### All keys -/

/-- What a key can do about the mode. -/
inductive Turn (c : Console) (key : Key) : Action × Console → Prop where
  | quit : Turn c key c.quit
  | popup {step : Action × Console} (opened : c.detail.isSome = true) (quiet : Quiet c step) :
      Turn c key step
  | list {step : Action × Console} (normal : c.mode = .normal) (quiet : Quiet c step) :
      Turn c key step
  | filter {finish : Console} (mode : c.mode = .filter) (closed : finish.detail = none)
      (engine : Moves c.engine finish.engine)
      (left : finish.mode = .filter ∨ finish.mode = .normal) : Turn c key (.none, finish)
  | beginFilter (normal : c.mode = .normal) (closed : c.detail = none) :
      Turn c key (.none, { c with mode := .filter })
  | ask (code : key.code = .char 'x') (normal : c.mode = .normal) (closed : c.detail = none) :
      Turn c key (.none, c.beginKill)
  | answer {asked : KillPlan} (mode : c.mode = .confirm asked) (closed : c.detail = none) :
      Turn c key (c.pressInConfirm key)

theorem turn_obeyFilter (mode : c.mode = .filter) (closed : c.detail = none) (key : Key)
    (command : FilterCommand) : Turn c key (.none, (c.obeyFilter command).clampCursor) := by
  cases command with
  | idle => exact .filter mode closed .refl (.inl mode)
  | finish => exact .filter mode closed .refl (.inr rfl)
  | abandon => exact .filter mode closed (.perform .refl .clearFilter nofun) (.inr rfl)
  | erase => exact .filter mode closed (.perform .refl .popFilter nofun) (.inl mode)
  | write ch => exact .filter mode closed (.perform .refl (.pushFilter ch) nofun) (.inl mode)

theorem turn_obeyList (normal : c.mode = .normal) (closed : c.detail = none) (key : Key) :
    Turn c key (c.obeyList (.ofKey key)) := by
  cases command : ListCommand.ofKey key with
  | quit => exact .quit
  | idle | down | up => exact .list normal (quiet_none .refl rfl)
  | showAll => exact .list normal (quiet_none (.perform .refl .clearFilter nofun) rfl)
  | ask kind => exact .list normal (quiet_askAdvice (c.exists_openDetail kind))
  | mark =>
    exact .list normal (quiet_none c.steady_toggleAtCursor.engine c.steady_toggleAtCursor.mode)
  | markAll => exact .list normal (quiet_none c.steady_toggleAll.engine c.steady_toggleAll.mode)
  | unmarkAll => exact .list normal (quiet_none (.perform .refl .clearSelection nofun) rfl)
  | beginKill => exact .ask (ListCommand.code_of_beginKill command) normal closed
  | beginFilter => exact .beginFilter normal closed
  | togglePolling | refresh => exact .list normal ⟨.refl, rfl, nofun⟩
  | sort column =>
    exact .list normal (quiet_none (.perform .refl (.requestSort column) nofun) rfl)

theorem turn_press (c : Console) (key : Key) : Turn c key (c.press key) := by
  unfold press
  split
  · exact .quit
  · split
    · rename_i opened
      rw [pressInDetail_eq]
      exact .popup opened (c.quiet_obeyPopup _)
    · rename_i closed
      replace closed : c.detail = none := by simpa using closed
      split
      · rename_i mode
        exact .answer mode closed
      · rename_i mode
        rw [pressInFilter_eq]
        exact turn_obeyFilter mode closed key _
      · rename_i normal
        rw [pressInExecutor_eq, pressInList_eq]
        split
        · exact .list normal (quiet_none .refl rfl)
        · split
          · exact .list normal (c.quiet_obeyExecutor _)
          · exact turn_obeyList normal closed key
          · exact turn_obeyList normal closed key

/-! ### The question whether to kill -/

section
variable {asked plan : KillPlan} {key : Key} {step : Action × Console}

theorem confirmKill_ok (mode : c.mode = .confirm asked)
    (planned : c.engine.planKill asked.ids = .ok plan) :
    c.confirmKill = (some plan, { c with mode := .normal }) := by
  rw [KillPlan.ids] at planned
  simp only [confirmKill, takeKillPlan, mode, planned]

theorem confirmKill_error {refusal : Refusal} (mode : c.mode = .confirm asked)
    (refused : c.engine.planKill asked.ids = .error refusal) :
    c.confirmKill = (none, { c with mode := .normal }.notifyError refusal.message) := by
  rw [KillPlan.ids] at refused
  simp only [confirmKill, takeKillPlan, mode, refused]

/-- Any key answers the question. The answer changes neither the engine nor the popup. -/
theorem pressInConfirm_eq (mode : c.mode = .confirm asked) (key : Key) :
    ∃ notice, (c.pressInConfirm key).2 = { c with mode := .normal, notice := notice } := by
  rw [pressInConfirm_eq_answer]
  exact exists_answerQuestion mode _

theorem pressInConfirm_kill (mode : c.mode = .confirm asked)
    (kill : (c.pressInConfirm key).1 = .kill plan) :
    (key.code = .char 'y' ∨ key.code = .char 'Y') ∧ c.engine.planKill asked.ids = .ok plan := by
  unfold pressInConfirm at kill
  cases planned : c.engine.planKill asked.ids with
  | ok other =>
    rw [confirmKill_ok mode planned] at kill
    split at kill
    · rename_i code
      cases kill
      exact ⟨.inl code, rfl⟩
    · rename_i code
      cases kill
      exact ⟨.inr code, rfl⟩
    · cases kill
  | error refusal =>
    rw [confirmKill_error mode planned] at kill
    split at kill <;> cases kill

theorem press_yes (mode : c.mode = .confirm asked) (closed : c.detail = none)
    (code : key.code = .char 'y' ∨ key.code = .char 'Y')
    (planned : c.engine.planKill asked.ids = .ok plan) : (c.press key).1 = .kill plan := by
  have answered : c.press key = c.pressInConfirm key := by
    rcases code with code | code <;> simp [press, mode, closed, code]
  rw [answered, pressInConfirm, confirmKill_ok mode planned]
  rcases code with code | code
  · simp only [code]
  · simp only [code]

/-- While keys do not go to the list, no popup is open. -/
def Settled (c : Console) : Prop :=
  c.mode = .normal ∨ c.detail = none

theorem Settled.closed (settled : Settled c) (mode : c.mode = .confirm asked) :
    c.detail = none := by
  rcases settled with normal | closed
  · cases normal.symm.trans mode
  · exact closed

theorem Steady.settled {finish : Console} (h : Steady c finish) (settled : Settled c) :
    Settled finish :=
  settled.imp h.mode.trans h.detail

theorem engine_beginKill (c : Console) : c.beginKill.engine = c.engine := by
  obtain ⟨mode, notice, changed⟩ := c.exists_beginKill
  rw [changed]

theorem detail_beginKill (c : Console) : c.beginKill.detail = c.detail := by
  obtain ⟨mode, notice, changed⟩ := c.exists_beginKill
  rw [changed]

theorem mode_beginKill (normal : c.mode = .normal) (mode : c.beginKill.mode = .confirm asked) :
    c.engine.planKillSelected = .ok asked := by
  unfold beginKill at mode
  split at mode
  · rename_i plan planned
    obtain rfl := Mode.confirm.inj mode
    exact planned
  · cases normal.symm.trans mode

theorem Turn.engine (turn : Turn c key step) : Moves c.engine step.2.engine := by
  cases turn with
  | quit => exact .refl
  | popup _ quiet => exact quiet.engine
  | list _ quiet => exact quiet.engine
  | filter _ _ engine => exact engine
  | beginFilter => exact .refl
  | ask =>
    show Moves c.engine c.beginKill.engine
    exact c.engine_beginKill ▸ .refl
  | answer mode =>
    obtain ⟨notice, finish⟩ := pressInConfirm_eq mode key
    rw [finish]
    exact .refl

theorem Turn.settled (turn : Turn c key step) (settled : Settled c) : Settled step.2 := by
  cases turn with
  | quit => exact settled
  | popup opened quiet =>
    rcases settled with normal | closed
    · exact .inl (quiet.mode.trans normal)
    · rw [closed] at opened
      cases opened
  | list normal quiet => exact .inl (quiet.mode.trans normal)
  | filter _ closed => exact .inr closed
  | beginFilter _ closed => exact .inr closed
  | ask _ _ closed => exact .inr (c.detail_beginKill.trans closed)
  | answer mode =>
    obtain ⟨notice, finish⟩ := pressInConfirm_eq mode key
    rw [finish]
    exact .inl rfl

theorem Turn.of_kill (turn : Turn c key step) (kill : step.1 = .kill plan) :
    ∃ asked, c.mode = .confirm asked ∧ (key.code = .char 'y' ∨ key.code = .char 'Y') ∧
      c.engine.planKill asked.ids = .ok plan := by
  cases turn with
  | quit | filter | beginFilter | ask => cases kill
  | popup _ quiet => exact (quiet.action plan kill).elim
  | list _ quiet => exact (quiet.action plan kill).elim
  | answer mode => exact ⟨_, mode, pressInConfirm_kill mode kill⟩

theorem Turn.of_confirm (turn : Turn c key step) (settled : Settled c)
    (running : step.2.quitting = false) (mode : step.2.mode = .confirm asked) :
    key.code = .char 'x' ∧ c.mode = .normal ∧ c.engine.planKillSelected = .ok asked := by
  cases turn with
  | quit => cases running
  | popup opened quiet =>
    rcases settled with normal | closed
    · cases (quiet.mode.trans normal).symm.trans mode
    · rw [closed] at opened
      cases opened
  | list normal quiet => cases (quiet.mode.trans normal).symm.trans mode
  | filter _ _ _ left => rcases left with left | left <;> cases left.symm.trans mode
  | beginFilter => cases mode
  | ask code normal => exact ⟨code, normal, mode_beginKill normal mode⟩
  | answer earlier =>
    obtain ⟨notice, finish⟩ := pressInConfirm_eq earlier key
    rw [finish] at mode
    cases mode

end

end SessionMonitor.Console
