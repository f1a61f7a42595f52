import SessionMonitor.Proofs.Console.Commands

/-!
# Veiled consoles

What statements, advice and databases bring is only kept in the executor, in the content of the
popup and in the notice. A command does the same to the rest of the console whatever is kept there.
-/

namespace SessionMonitor

def Detail.veiled (d : Detail) : Detail :=
  ⟨d.session, d.kind, none, .noStatement⟩

def Action.veiled : Action → Action
  | .togglePolling => .togglePolling
  | .refresh => .refresh
  | .kill plan => .kill plan
  | _ => .none

namespace Console

/-- The console without the executor, the content of the popup, the notice and the time. -/
def veiled (c : Console) : Console :=
  { c with detail := c.detail.map .veiled, executor := .initial, notice := none, updatedAt := none }

/-- What can be seen of a step through the veil. -/
def seen (step : Action × Console) : Action × Console :=
  (step.1.veiled, step.2.veiled)

variable (c : Console)

theorem veiled_detail : c.veiled.detail = c.detail.map .veiled :=
  rfl

theorem veiled_veiled : c.veiled.veiled = c.veiled := by
  obtain ⟨engine, page, mode, cursor, detail⟩ := c
  cases detail <;> rfl

/-- A change that the veil lets through is the same change of the veiled console. -/
theorem seen_of_commutes (action : Action) (change : Console → Console)
    (commutes : change c.veiled = (change c).veiled) :
    seen (action, change c) = seen (action, change c.veiled) := by
  rw [seen, seen, commutes, veiled_veiled]

/-! ### The popup -/

theorem seen_askAdvice (kind : DetailKind) (opened : Option String × Console) :
    seen (askAdvice kind opened) = (.none, opened.2.veiled) := by
  obtain ⟨statement, finish⟩ := opened
  cases statement <;> rfl

theorem veiled_switchDetail (kind : DetailKind) :
    (c.switchDetail kind).2.veiled = (c.veiled.switchDetail kind).2.veiled := by
  unfold switchDetail
  rw [veiled_detail]
  cases c.detail with
  | none => rw [Option.map_none, veiled_veiled]
  | some d =>
    rw [Option.map_some, Detail.veiled]
    dsimp only
    split
    · rw [veiled_veiled]
    · rfl

theorem veiled_openDetail (kind : DetailKind) :
    (c.openDetail kind).2.veiled = (c.veiled.openDetail kind).2.veiled := by
  have same : c.veiled.cursorSession? = c.cursorSession? := rfl
  unfold openDetail
  rw [same]
  cases c.cursorSession? with
  | none => rw [veiled_veiled]
  | some session => rfl

theorem seen_obeyPopup (command : PopupCommand) :
    seen (c.obeyPopup command) = seen (c.veiled.obeyPopup command) := by
  cases command with
  | idle => exact c.seen_of_commutes .none id rfl
  | close => rfl
  | turn kind =>
    simp only [obeyPopup, seen_askAdvice]
    exact congrArg (Prod.mk _) (c.veiled_switchDetail kind)

/-! ### The question -/

theorem seen_notify (words : String) :
    seen (.none, c.notify words) = seen (.none, c.veiled.notify words) := by
  show (_, c.veiled) = (_, c.veiled.veiled)
  rw [veiled_veiled]

theorem seen_notifyError (words : String) :
    seen (.none, c.notifyError words) = seen (.none, c.veiled.notifyError words) :=
  c.seen_notify words

theorem takeKillPlan_veiled :
    c.veiled.takeKillPlan = (c.takeKillPlan.1, c.takeKillPlan.2.veiled) := by
  have same : c.veiled.mode = c.mode := rfl
  unfold takeKillPlan
  rw [same]
  cases c.mode <;> rfl

theorem seen_answerQuestion (yes : Bool) :
    seen (c.answerQuestion yes) = seen (c.veiled.answerQuestion yes) := by
  unfold answerQuestion confirmKill
  rw [takeKillPlan_veiled]
  obtain ⟨question, d⟩ := c.takeKillPlan
  cases yes with
  | false => exact d.seen_notify "Kill cancelled"
  | true =>
    cases question with
    | none => exact d.seen_of_commutes .none id rfl
    | some asked =>
      have same : d.veiled.engine = d.engine := rfl
      simp only [same]
      cases d.engine.planKill (asked.live ++ asked.gone) with
      | ok plan => exact d.seen_of_commutes (.kill plan) id rfl
      | error refusal => exact d.seen_notifyError refusal.message

/-! ### The filter and the executor -/

theorem veiled_obeyFilter (command : FilterCommand) :
    c.veiled.obeyFilter command = (c.obeyFilter command).veiled := by
  cases command <;> rfl

theorem seen_execute : seen c.execute = (.none, c.veiled) := by
  unfold execute beginExecute
  dsimp only
  split <;> rename_i begun
  · split at begun
    · cases begun
    · split at begun <;> cases begun
      rfl
  · split at begun
    · cases begun
      rfl
    · split at begun <;> cases begun
      rfl

theorem seen_chooseDatabase : seen c.chooseDatabase = (.none, c.veiled) := by
  unfold chooseDatabase
  split <;> rfl

theorem seen_withExecutor (executor other : Executor) :
    seen (.none, c.withExecutor executor) = seen (.none, c.veiled.withExecutor other) := by
  show (_, c.veiled) = (_, c.veiled.veiled)
  rw [veiled_veiled]

theorem seen_obeyExecutor (command : ExecutorCommand) :
    seen (c.obeyExecutor command) = seen (c.veiled.obeyExecutor command) := by
  cases command with
  | idle => exact c.seen_of_commutes .none id rfl
  | execute => rw [obeyExecutor, seen_execute, obeyExecutor, seen_execute, veiled_veiled]
  | leave => exact c.seen_of_commutes .none (fun c => { c with page := .sessions }) rfl
  | chooseDatabase =>
    rw [obeyExecutor, seen_chooseDatabase, obeyExecutor, seen_chooseDatabase, veiled_veiled]
  | erase | clear | write => exact c.seen_withExecutor _ _

/-! ### The table -/

theorem veiled_toggleAtCursor : c.veiled.toggleAtCursor = c.toggleAtCursor.veiled := by
  have same : c.veiled.cursorSession? = c.cursorSession? := rfl
  unfold toggleAtCursor
  rw [same]
  cases c.cursorSession? <;> rfl

theorem seen_beginKill : seen (.none, c.beginKill) = seen (.none, c.veiled.beginKill) := by
  have same : c.veiled.engine.planKillSelected = c.engine.planKillSelected := rfl
  unfold beginKill
  rw [same]
  cases c.engine.planKillSelected with
  | ok plan => exact c.seen_of_commutes .none (fun c => { c with mode := .confirm plan }) rfl
  | error refusal => exact c.seen_notifyError refusal.message

theorem seen_obeyList (command : ListCommand) :
    seen (c.obeyList command) = seen (c.veiled.obeyList command) := by
  cases command with
  | idle => exact c.seen_of_commutes .none id rfl
  | quit => exact c.seen_of_commutes .quit (fun c => { c with quitting := true }) rfl
  | down => exact c.seen_of_commutes .none cursorDown rfl
  | up => exact c.seen_of_commutes .none cursorUp rfl
  | showAll =>
    exact c.seen_of_commutes .none
      (fun c => { c with engine := c.engine.clearFilter }.clampCursor) rfl
  | ask kind =>
    simp only [obeyList, seen_askAdvice]
    exact congrArg (Prod.mk _) (c.veiled_openDetail kind)
  | mark =>
    exact c.seen_of_commutes .none (fun c => c.toggleAtCursor.cursorDown)
      (congrArg cursorDown c.veiled_toggleAtCursor)
  | markAll => exact c.seen_of_commutes .none toggleAll rfl
  | unmarkAll =>
    exact c.seen_of_commutes .none (fun c => { c with engine := c.engine.clearSelection }) rfl
  | beginKill => exact c.seen_beginKill
  | beginFilter => exact c.seen_of_commutes .none (fun c => { c with mode := .filter }) rfl
  | togglePolling => exact c.seen_of_commutes .togglePolling id rfl
  | refresh => exact c.seen_of_commutes .refresh id rfl
  | sort key =>
    exact c.seen_of_commutes .none (fun c => { c with engine := c.engine.requestSort key }) rfl

theorem seen_obey (command : Command) : seen (c.obey command) = seen (c.veiled.obey command) := by
  cases command with
  | quit => exact c.seen_of_commutes .quit (fun c => { c with quitting := true }) rfl
  | popup command => exact c.seen_obeyPopup command
  | answer yes => exact c.seen_answerQuestion yes
  | filter command =>
    exact c.seen_of_commutes .none (fun c => (c.obeyFilter command).clampCursor)
      (congrArg clampCursor (c.veiled_obeyFilter command))
  | nextPage => exact c.seen_of_commutes .none (fun c => { c with page := c.page.next }) rfl
  | executor command => exact c.seen_obeyExecutor command
  | list command => exact c.seen_obeyList command

theorem command_veiled (key : Key) : c.veiled.command key = c.command key := by
  simp [command, veiled]

theorem seen_press (key : Key) : seen (c.press key) = seen (c.veiled.press key) := by
  rw [press_eq_obey, press_eq_obey, command_veiled]
  exact c.seen_obey _

end Console

end SessionMonitor
