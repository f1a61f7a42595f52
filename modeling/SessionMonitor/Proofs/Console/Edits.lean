import SessionMonitor.Failure
import SessionMonitor.Proofs.Console.Commands
import SessionMonitor.Proofs.Engine.Run

/-!
# What commands change

A command changes a small part of the console. In the engine it only changes what is shown of the
snapshot and which sessions are marked: what answers have brought stays as it is.
-/

namespace SessionMonitor

/-- What an engine has taken over from answers. -/
structure Observed where
  snapshot : Snapshot
  summary : Summary
  history : History

namespace Engine

def observed (e : Engine) : Observed :=
  ⟨e.snapshot, e.summary, e.history⟩

/-- A change of what is shown and of the marks, and of nothing else. -/
structure Edited (e finish : Engine) : Prop where
  options : finish.options = e.options
  observed : finish.observed = e.observed
  scheduler : finish.scheduler = e.scheduler

theorem Edited.refl (e : Engine) : Edited e e :=
  ⟨rfl, rfl, rfl⟩

theorem Edited.trans {e middle finish : Engine} (h : Edited e middle)
    (next : Edited middle finish) : Edited e finish :=
  ⟨next.options.trans h.options, next.observed.trans h.observed, next.scheduler.trans h.scheduler⟩

/-- An operation on what is shown or marked. -/
def Step.isEdit {ε : Type} : Step ε → Bool
  | .requestSort _ | .setFilter _ | .pushFilter _ | .popFilter | .clearFilter => true
  | .toggleSelection _ | .selectVisible | .clearSelection => true
  | _ => false

theorem edited_perform {ε : Type} (e : Engine) {step : Step ε} (edit : step.isEdit = true) :
    Edited e (e.perform step) := by
  cases step with
  | requestSort | setFilter | pushFilter | popFilter | clearFilter => exact ⟨rfl, rfl, rfl⟩
  | toggleSelection | selectVisible | clearSelection => exact ⟨rfl, rfl, rfl⟩
  | _ => cases edit

theorem pollEvents_of_edit {ε : Type} (e : Engine) {step : Step ε} (edit : step.isEdit = true) :
    e.pollEvents step = [] := by
  have unanswered : ∀ ticket answer, step ≠ .resolvePoll ticket answer := by
    rintro ticket answer rfl
    cases edit
  have silent : e.ticket? step = none := by
    cases step with
    | resumePolling | togglePolling | pollTick | requestRefresh | completeKill => cases edit
    | _ => rfl
  rw [pollEvents_of_no_answer e step unanswered, (e.edited_perform edit).scheduler, silent,
    Scheduler.change, if_pos rfl]
  rfl

theorem pollLog_of_edits {ε : Type} (e : Engine) {steps : List (Step ε)}
    (edits : ∀ step ∈ steps, step.isEdit = true) : e.pollLog steps = [] := by
  induction steps generalizing e with
  | nil => rfl
  | cons step rest ih =>
    obtain ⟨edit, later⟩ := List.forall_mem_cons.mp edits
    rw [pollLog, e.pollEvents_of_edit edit, ih (e.perform step) later, List.append_nil]

def Edits (e finish : Engine) : Prop :=
  ∃ steps : List (Step Failure), (∀ step ∈ steps, step.isEdit = true) ∧ finish = e.run steps

theorem Edits.refl (e : Engine) : Edits e e :=
  ⟨[], nofun, rfl⟩

theorem edits_perform (e : Engine) (step : Step Failure) (edit : step.isEdit = true) :
    Edits e (e.perform step) :=
  ⟨[step], List.forall_mem_singleton.mpr edit, rfl⟩

theorem Edits.edited {e finish : Engine} (h : Edits e finish) : Edited e finish := by
  obtain ⟨steps, edits, rfl⟩ := h
  induction steps generalizing e with
  | nil => exact .refl e
  | cons step rest ih =>
    obtain ⟨first, later⟩ := List.forall_mem_cons.mp edits
    exact (e.edited_perform first).trans (ih later)

end Engine

namespace Console

open Engine (Edited Edits)

variable {c : Console}

/-! ### The parts of the console that a command changes -/

theorem exists_askAdvice (kind : DetailKind) {opened : Option String × Console}
    (changed : ∃ detail, opened.2 = { c with detail := detail }) :
    ∃ detail, (askAdvice kind opened).2 = { c with detail := detail } := by
  obtain ⟨statement, finish⟩ := opened
  cases statement <;> exact changed

theorem exists_switchDetail (c : Console) (kind : DetailKind) :
    ∃ detail, (c.switchDetail kind).2 = { c with detail := detail } := by
  unfold switchDetail
  split
  · exact ⟨c.detail, rfl⟩
  · split
    · exact ⟨c.detail, rfl⟩
    · exact ⟨_, rfl⟩

theorem exists_openDetail (c : Console) (kind : DetailKind) :
    ∃ detail, (c.openDetail kind).2 = { c with detail := detail } := by
  unfold openDetail
  split
  · exact ⟨c.detail, rfl⟩
  · exact ⟨_, rfl⟩

theorem exists_obeyPopup (c : Console) (command : PopupCommand) :
    ∃ detail, (c.obeyPopup command).2 = { c with detail := detail } := by
  cases command with
  | idle => exact ⟨c.detail, rfl⟩
  | close => exact ⟨none, rfl⟩
  | turn kind => exact exists_askAdvice kind (c.exists_switchDetail kind)

theorem exists_answerQuestion {asked : KillPlan} (mode : c.mode = .confirm asked) (yes : Bool) :
    ∃ notice, (c.answerQuestion yes).2 = { c with mode := .normal, notice := notice } := by
  unfold answerQuestion confirmKill takeKillPlan
  rw [mode]
  dsimp only
  cases c.engine.planKill (asked.live ++ asked.gone) <;> cases yes <;> exact ⟨_, rfl⟩

theorem exists_execute (c : Console) : ∃ executor, c.execute.2 = c.withExecutor executor := by
  unfold execute beginExecute
  dsimp only
  split
  · rename_i begun
    split at begun
    · cases begun
    · split at begun <;> cases begun
      exact ⟨_, rfl⟩
  · rename_i begun
    split at begun
    · cases begun
      exact ⟨c.executor, rfl⟩
    · split at begun <;> cases begun
      exact ⟨_, rfl⟩

theorem action_obeyExecutor (c : Console) (command : ExecutorCommand) :
    (c.obeyExecutor command).1 = .none ∨
      (∃ query db, (c.obeyExecutor command).1 = .execute query db) ∨
      (c.obeyExecutor command).1 = .loadDatabases := by
  cases command with
  | idle | leave | erase | clear | write => exact .inl rfl
  | execute =>
    simp only [obeyExecutor, execute]
    split
    · exact .inr (.inl ⟨_, _, rfl⟩)
    · exact .inl rfl
  | chooseDatabase =>
    simp only [obeyExecutor, chooseDatabase]
    split
    · exact .inr (.inr rfl)
    · exact .inl rfl

theorem exists_obeyExecutor (c : Console) (command : ExecutorCommand) :
    ∃ page executor,
      (c.obeyExecutor command).2 = { c with page := page, executor := executor } := by
  cases command with
  | idle => exact ⟨c.page, c.executor, rfl⟩
  | execute =>
    obtain ⟨executor, changed⟩ := c.exists_execute
    exact ⟨c.page, executor, changed⟩
  | leave => exact ⟨.sessions, c.executor, rfl⟩
  | chooseDatabase =>
    simp only [obeyExecutor, chooseDatabase]
    split
    · exact ⟨c.page, c.executor, rfl⟩
    · exact ⟨c.page, _, rfl⟩
  | erase | clear | write => exact ⟨c.page, _, rfl⟩

theorem exists_toggleAtCursor (c : Console) :
    ∃ engine, c.toggleAtCursor = { c with engine := engine } := by
  unfold toggleAtCursor
  split
  · exact ⟨_, rfl⟩
  · exact ⟨c.engine, rfl⟩

theorem exists_beginKill (c : Console) :
    ∃ mode notice, c.beginKill = { c with mode := mode, notice := notice } := by
  unfold beginKill
  split
  · exact ⟨_, c.notice, rfl⟩
  · exact ⟨c.mode, _, rfl⟩

/-- The keys of the table reach neither the page nor the executor nor what is known of the answers
about the session list. -/
theorem exists_obeyList (c : Console) (command : ListCommand) :
    ∃ engine mode cursor detail notice quitting, (c.obeyList command).2 =
      { c with
        engine := engine
        mode := mode
        cursor := cursor
        detail := detail
        notice := notice
        quitting := quitting } := by
  cases command with
  | ask kind =>
    obtain ⟨detail, changed⟩ := exists_askAdvice kind (c.exists_openDetail kind)
    rw [obeyList, changed]
    exact ⟨_, _, _, detail, _, _, rfl⟩
  | mark =>
    obtain ⟨engine, changed⟩ := c.exists_toggleAtCursor
    rw [obeyList, changed]
    exact ⟨engine, _, _, _, _, _, rfl⟩
  | beginKill =>
    obtain ⟨mode, notice, changed⟩ := c.exists_beginKill
    rw [obeyList, changed]
    exact ⟨_, mode, _, _, notice, _, rfl⟩
  | _ => exact ⟨_, _, _, _, _, _, rfl⟩

/-! ### The engine -/

theorem edits_toggleAtCursor (c : Console) : Edits c.engine c.toggleAtCursor.engine := by
  unfold toggleAtCursor
  split
  · rename_i session _
    exact c.engine.edits_perform (.toggleSelection session.id) rfl
  · exact .refl _

theorem edits_toggleAll (c : Console) : Edits c.engine c.toggleAll.engine := by
  unfold toggleAll
  dsimp only
  split
  · exact c.engine.edits_perform .clearSelection rfl
  · exact c.engine.edits_perform .selectVisible rfl

theorem edits_beginKill (c : Console) : Edits c.engine c.beginKill.engine := by
  obtain ⟨mode, notice, changed⟩ := c.exists_beginKill
  rw [changed]
  exact .refl _

theorem edits_obeyFilter (c : Console) (command : FilterCommand) :
    Edits c.engine (c.obeyFilter command).engine := by
  cases command with
  | idle | finish => exact .refl _
  | abandon => exact c.engine.edits_perform .clearFilter rfl
  | erase => exact c.engine.edits_perform .popFilter rfl
  | write ch => exact c.engine.edits_perform (.pushFilter ch) rfl

theorem edits_obeyList (c : Console) (command : ListCommand) :
    Edits c.engine (c.obeyList command).2.engine := by
  cases command with
  | idle | quit | down | up | beginFilter | togglePolling | refresh => exact .refl _
  | showAll => exact c.engine.edits_perform .clearFilter rfl
  | unmarkAll => exact c.engine.edits_perform .clearSelection rfl
  | sort key => exact c.engine.edits_perform (.requestSort key) rfl
  | ask kind =>
    obtain ⟨detail, changed⟩ := exists_askAdvice kind (c.exists_openDetail kind)
    rw [obeyList, changed]
    exact .refl _
  | mark => exact c.edits_toggleAtCursor
  | markAll => exact c.edits_toggleAll
  | beginKill => exact c.edits_beginKill

theorem edits_obey {command : Command} (given : Given c command) :
    Edits c.engine (c.obey command).2.engine := by
  cases command with
  | quit | nextPage => exact .refl _
  | popup command =>
    obtain ⟨detail, changed⟩ := c.exists_obeyPopup command
    rw [obey, changed]
    exact .refl _
  | answer yes =>
    obtain ⟨-, asked, mode⟩ := given
    obtain ⟨notice, changed⟩ := exists_answerQuestion mode yes
    rw [obey, changed]
    exact .refl _
  | filter command => exact c.edits_obeyFilter command
  | executor command =>
    obtain ⟨page, executor, changed⟩ := c.exists_obeyExecutor command
    rw [obey, changed]
    exact .refl _
  | list command => exact c.edits_obeyList command

theorem edits_press (c : Console) (key : Key) : Edits c.engine (c.press key).2.engine := by
  rw [press_eq_obey]
  exact edits_obey (c.given_command key)

theorem edited_press (c : Console) (key : Key) : Edited c.engine (c.press key).2.engine :=
  (c.edits_press key).edited

end Console

end SessionMonitor
