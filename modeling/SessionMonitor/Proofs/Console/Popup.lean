import SessionMonitor.Proofs.Console.Modes

/-!
# The popup under keys

What a key can do about the popup: nothing, close it, or put one in its place. The new popup asks
for advice if and only if its session runs a statement.
-/

namespace SessionMonitor

def Action.isAdvice : Action → Bool
  | fetchDetail _ _ | closeDetail => true
  | _ => false

namespace Console

variable {c : Console}

/-- A key that leaves the popup alone. -/
structure Aside (c : Console) (step : Action × Console) : Prop where
  detail : step.2.detail = c.detail
  action : step.1.isAdvice = false

/-- What a key can do about the popup. -/
inductive PopupTurn (c : Console) : Action × Console → Prop where
  | aside {step : Action × Console} (aside : Aside c step) : PopupTurn c step
  | close : PopupTurn c (.closeDetail, c.closeDetail)
  | replace {session : Session} {kind : DetailKind}
    (old : ∀ d, c.detail = some d → d.session = session ∧ d.kind ≠ kind) :
    PopupTurn c (askAdvice kind
      (session.statement?, { c with detail := some (.ofSession session kind) }))

theorem aside_none {finish : Console} (detail : finish.detail = c.detail) :
    Aside c (.none, finish) :=
  ⟨detail, rfl⟩

theorem popup_openDetail (closed : c.detail = none) (kind : DetailKind) :
    PopupTurn c (askAdvice kind (c.openDetail kind)) := by
  unfold openDetail
  split
  · exact .aside (aside_none rfl)
  · refine .replace fun d opened => ?_
    cases closed.symm.trans opened

theorem popup_switchDetail (c : Console) (kind : DetailKind) :
    PopupTurn c (askAdvice kind (c.switchDetail kind)) := by
  unfold switchDetail
  split
  · exact .aside (aside_none rfl)
  · rename_i detail opened
    split
    · exact .aside (aside_none rfl)
    · rename_i different
      refine .replace fun d same => ?_
      obtain rfl := Option.some.inj (opened.symm.trans same)
      exact ⟨rfl, different⟩

theorem popup_obeyPopup (c : Console) (command : PopupCommand) :
    PopupTurn c (c.obeyPopup command) := by
  cases command with
  | idle => exact .aside (aside_none rfl)
  | close => exact .close
  | turn kind => exact c.popup_switchDetail kind

/-! ### Commands that do not reach the popup -/

theorem aside_answerQuestion {asked : KillPlan} (mode : c.mode = .confirm asked) (yes : Bool) :
    Aside c (c.answerQuestion yes) := by
  obtain ⟨notice, changed⟩ := exists_answerQuestion mode yes
  refine ⟨by rw [changed], ?_⟩
  unfold answerQuestion
  cases yes with
  | false => rfl
  | true =>
    rw [if_pos rfl]
    split <;> rfl

theorem aside_obeyExecutor (c : Console) (command : ExecutorCommand) :
    Aside c (c.obeyExecutor command) := by
  obtain ⟨page, executor, changed⟩ := c.exists_obeyExecutor command
  refine ⟨by rw [changed], ?_⟩
  rcases c.action_obeyExecutor command with none | ⟨query, db, run⟩ | load
  · rw [none]
    rfl
  · rw [run]
    rfl
  · rw [load]
    rfl

theorem detail_toggleAtCursor (c : Console) : c.toggleAtCursor.detail = c.detail := by
  obtain ⟨engine, changed⟩ := c.exists_toggleAtCursor
  rw [changed]

/-! ### All keys -/

theorem popup_obeyList (closed : c.detail = none) (command : ListCommand) :
    PopupTurn c (c.obeyList command) := by
  cases command with
  | ask kind => exact popup_openDetail closed kind
  | mark => exact .aside (aside_none c.detail_toggleAtCursor)
  | beginKill => exact .aside (aside_none c.detail_beginKill)
  | _ => exact .aside ⟨rfl, rfl⟩

theorem popup_obey {command : Command} (given : Given c command) :
    PopupTurn c (c.obey command) := by
  cases command with
  | quit | nextPage => exact .aside ⟨rfl, rfl⟩
  | popup command => exact c.popup_obeyPopup command
  | answer yes =>
    obtain ⟨-, asked, mode⟩ := given
    exact .aside (aside_answerQuestion mode yes)
  | filter command => cases command <;> exact .aside (aside_none rfl)
  | executor command => exact .aside (c.aside_obeyExecutor command)
  | list command => exact popup_obeyList given.1 command

theorem popup_press (c : Console) (key : Key) : PopupTurn c (c.press key) := by
  rw [press_eq_obey]
  exact popup_obey (c.given_command key)

end Console

end SessionMonitor
