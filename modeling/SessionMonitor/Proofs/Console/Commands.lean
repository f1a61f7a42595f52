import SessionMonitor.Console.Keys

/-!
# Commands

What a key means depends on nothing but the popup being open, the mode and the page. A key means a
command, and pressing it is obeying the command.
-/

namespace SessionMonitor

inductive PopupCommand where
  | idle
  | close
  | turn (kind : DetailKind)

inductive FilterCommand where
  | idle
  | finish
  | abandon
  | erase
  | write (ch : Char)

inductive ExecutorCommand where
  | idle
  | execute
  | leave
  | chooseDatabase
  | erase
  | clear
  | write (ch : Char)

inductive ListCommand where
  | idle
  | quit
  | down
  | up
  | showAll
  | ask (kind : DetailKind)
  | mark
  | markAll
  | unmarkAll
  | beginKill
  | beginFilter
  | togglePolling
  | refresh
  | sort (key : SortKey)

inductive Command where
  | quit
  | popup (command : PopupCommand)
  | answer (yes : Bool)
  | filter (command : FilterCommand)
  | nextPage
  | executor (command : ExecutorCommand)
  | list (command : ListCommand)

/-! ### What a key means -/

def PopupCommand.ofKey (key : Key) : PopupCommand :=
  match key.code with
  | .escape | .enter | .char 'q' => close
  | .char 'e' => turn .explain
  | .char 'r' => turn .recommendations
  | _ => idle

def FilterCommand.ofKey (key : Key) : FilterCommand :=
  match key.code with
  | .enter => finish
  | .escape => abandon
  | .backspace => erase
  | .char ch => write ch
  | _ => idle

def ExecutorCommand.ofKey (key : Key) : ExecutorCommand :=
  match key.code with
  | .enter => execute
  | .escape => leave
  | .backspace => erase
  | .char ch =>
    if key.control then
      match ch with
      | 'd' => chooseDatabase
      | 'e' => execute
      | 'l' => clear
      | _ => idle
    else write ch
  | _ => idle

def ListCommand.ofChar (ch : Char) : ListCommand :=
  match ch with
  | 'q' | 'Q' => quit
  | 'j' => down
  | 'k' => up
  | ' ' => mark
  | 'a' => markAll
  | 'c' => unmarkAll
  | 'x' => beginKill
  | '/' => beginFilter
  | 'p' | 'P' => togglePolling
  | 'r' | 'R' => refresh
  | 'e' => ask .explain
  | ch => match Console.sortColumn? ch with
    | some key => sort key
    | none => idle

def ListCommand.ofKey (key : Key) : ListCommand :=
  match key.code with
  | .down => down
  | .up => up
  | .escape => showAll
  | .enter => ask .recommendations
  | .char ch => ofChar ch
  | _ => idle

theorem ListCommand.code_of_beginKill {key : Key} (means : ofKey key = beginKill) :
    key.code = .char 'x' := by
  unfold ofKey at means
  split at means
  case h_5 ch code =>
    unfold ofChar at means
    split at means
    case h_8 => exact code
    case h_15 => split at means <;> cases means
    all_goals cases means
  all_goals cases means

namespace Command

def isYes (key : Key) : Bool :=
  key.code = .char 'y' || key.code = .char 'Y'

def ofKey (popup : Bool) (mode : Mode) (page : Page) (key : Key) : Command :=
  if key.control && key.code = .char 'c' then quit
  else if popup then .popup (.ofKey key)
  else match mode with
    | .confirm _ => answer (isYes key)
    | .filter => filter (.ofKey key)
    | .normal =>
      if key.code = .tab then nextPage
      else match page with
        | .executor => executor (.ofKey key)
        | .sessions | .dashboard => list (.ofKey key)

end Command

/-! ### What a command does -/

namespace Console

def obeyPopup (c : Console) : PopupCommand → Action × Console
  | .idle => (.none, c)
  | .close => (.closeDetail, c.closeDetail)
  | .turn kind => askAdvice kind (c.switchDetail kind)

def answerQuestion (c : Console) (yes : Bool) : Action × Console :=
  if yes then
    match c.confirmKill with
    | (some plan, c) => (.kill plan, c)
    | (none, c) => (.none, c)
  else (.none, c.takeKillPlan.2.notify "Kill cancelled")

def obeyFilter (c : Console) : FilterCommand → Console
  | .idle => c
  | .finish => { c with mode := .normal }
  | .abandon => { c with engine := c.engine.clearFilter, mode := .normal }
  | .erase => { c with engine := c.engine.popFilter }
  | .write ch => { c with engine := c.engine.pushFilter ch }

def chooseDatabase (c : Console) : Action × Console :=
  if c.executor.databases.isEmpty then (.loadDatabases, c)
  else (.none, c.withExecutor c.executor.cycleDatabase)

def obeyExecutor (c : Console) : ExecutorCommand → Action × Console
  | .idle => (.none, c)
  | .execute => c.execute
  | .leave => (.none, { c with page := .sessions })
  | .chooseDatabase => c.chooseDatabase
  | .erase =>
    (.none, c.withExecutor
      { c.executor with query := String.ofList c.executor.query.toList.dropLast })
  | .clear => (.none, c.withExecutor { c.executor with query := "" })
  | .write ch => (.none, c.withExecutor { c.executor with query := c.executor.query.push ch })

def obeyList (c : Console) : ListCommand → Action × Console
  | .idle => (.none, c)
  | .quit => c.quit
  | .down => (.none, c.cursorDown)
  | .up => (.none, c.cursorUp)
  | .showAll => (.none, { c with engine := c.engine.clearFilter }.clampCursor)
  | .ask kind => askAdvice kind (c.openDetail kind)
  | .mark => (.none, c.toggleAtCursor.cursorDown)
  | .markAll => (.none, c.toggleAll)
  | .unmarkAll => (.none, { c with engine := c.engine.clearSelection })
  | .beginKill => (.none, c.beginKill)
  | .beginFilter => (.none, { c with mode := .filter })
  | .togglePolling => (.togglePolling, c)
  | .refresh => (.refresh, c)
  | .sort key => (.none, { c with engine := c.engine.requestSort key })

def obey (c : Console) : Command → Action × Console
  | .quit => c.quit
  | .popup command => c.obeyPopup command
  | .answer yes => c.answerQuestion yes
  | .filter command => (.none, (c.obeyFilter command).clampCursor)
  | .nextPage => (.none, { c with page := c.page.next })
  | .executor command => c.obeyExecutor command
  | .list command => c.obeyList command

/-- What a key means here. -/
def command (c : Console) (key : Key) : Command :=
  .ofKey c.detail.isSome c.mode c.page key

/-! ### Pressing a key is obeying its command -/

variable (c : Console) (key : Key)

theorem pressInDetail_eq : c.pressInDetail key = c.obeyPopup (.ofKey key) := by
  unfold pressInDetail
  split <;> simp [PopupCommand.ofKey, obeyPopup, *]

theorem pressInConfirm_eq_answer : c.pressInConfirm key = c.answerQuestion (Command.isYes key) := by
  unfold pressInConfirm answerQuestion
  split
  · rename_i code
    exact (if_pos (by simp [Command.isYes, code])).symm
  · rename_i code
    exact (if_pos (by simp [Command.isYes, code])).symm
  · rename_i lower upper
    rw [if_neg (by simpa [Command.isYes] using ⟨lower, upper⟩)]

theorem editFilter_eq : c.editFilter key = c.obeyFilter (.ofKey key) := by
  unfold editFilter
  split <;> simp [FilterCommand.ofKey, obeyFilter, *]

theorem pressInFilter_eq : c.pressInFilter key =
    (.none, (c.obeyFilter (.ofKey key)).clampCursor) := by
  rw [pressInFilter, editFilter_eq]

theorem pressInExecutor_eq : c.pressInExecutor key = c.obeyExecutor (.ofKey key) := by
  unfold pressInExecutor
  split
  case h_4 =>
    split
    · split <;> simp [ExecutorCommand.ofKey, obeyExecutor, chooseDatabase, *]
    · simp [ExecutorCommand.ofKey, obeyExecutor, *]
  all_goals simp [ExecutorCommand.ofKey, obeyExecutor, *]

theorem pressChar_eq (ch : Char) : c.pressChar ch = c.obeyList (.ofChar ch) := by
  unfold pressChar
  split
  case h_15 => split <;> simp [ListCommand.ofChar, obeyList, *]
  all_goals simp [ListCommand.ofChar, obeyList, *]

theorem pressInList_eq : c.pressInList key = c.obeyList (.ofKey key) := by
  unfold pressInList
  split
  case h_5 => simp [ListCommand.ofKey, pressChar_eq, *]
  all_goals simp [ListCommand.ofKey, obeyList, *]

theorem press_eq_obey : c.press key = c.obey (c.command key) := by
  unfold press command Command.ofKey
  split
  · rfl
  · split
    · exact c.pressInDetail_eq key
    · cases mode : c.mode with
      | confirm plan => exact c.pressInConfirm_eq_answer key
      | filter => exact c.pressInFilter_eq key
      | normal =>
        dsimp only
        split
        · rw [← mode]
          rfl
        · cases c.page with
          | executor => exact c.pressInExecutor_eq key
          | sessions => exact c.pressInList_eq key
          | dashboard => exact c.pressInList_eq key

/-- When a command can be given. -/
def Given (c : Console) : Command → Prop
  | .quit => True
  | .popup _ => c.detail ≠ none
  | .answer _ => c.detail = none ∧ ∃ plan, c.mode = .confirm plan
  | .filter _ => c.detail = none ∧ c.mode = .filter
  | .nextPage => c.detail = none ∧ c.mode = .normal
  | .executor _ => c.detail = none ∧ c.mode = .normal ∧ c.page = .executor
  | .list _ => c.detail = none ∧ c.mode = .normal ∧ c.page ≠ .executor

theorem given_command : Given c (c.command key) := by
  unfold command Command.ofKey
  split
  · trivial
  · split
    · rename_i opened
      show c.detail ≠ none
      rintro closed
      rw [closed] at opened
      cases opened
    · rename_i closed
      replace closed : c.detail = none := by simpa using closed
      split
      · rename_i plan mode
        exact ⟨closed, plan, mode⟩
      · rename_i mode
        exact ⟨closed, mode⟩
      · rename_i normal
        split
        · exact ⟨closed, normal⟩
        · split
          · rename_i page
            exact ⟨closed, normal, page⟩
          · rename_i page
            exact ⟨closed, normal, by rw [page]; exact nofun⟩
          · rename_i page
            exact ⟨closed, normal, by rw [page]; exact nofun⟩

end Console

end SessionMonitor
