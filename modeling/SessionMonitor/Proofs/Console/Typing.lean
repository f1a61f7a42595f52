import SessionMonitor.Proofs.Console.Popup
import SessionMonitor.Proofs.Engine.Coherence

/-!
# Typing

What each command can ask for. While keys go to the popup, to the question, to the filter or to the
executor they give no command of the list, and letters that are typed are nothing but letters.
-/

namespace SessionMonitor

/-- What a command can ask for beyond the console. -/
inductive Command.Asks : Command → Action → Prop where
  | nothing (command : Command) : Asks command .none
  | quit : Asks .quit .quit
  | close (command : PopupCommand) : Asks (.popup command) .closeDetail
  | turn (command : PopupCommand) (kind : DetailKind) (query : String) :
    Asks (.popup command) (.fetchDetail kind query)
  | kill (yes : Bool) (plan : KillPlan) : Asks (.answer yes) (.kill plan)
  | execute (command : ExecutorCommand) (query : String) (db : Option String) :
    Asks (.executor command) (.execute query db)
  | loadDatabases (command : ExecutorCommand) : Asks (.executor command) .loadDatabases
  | leave (command : ListCommand) : Asks (.list command) .quit
  | togglePolling (command : ListCommand) : Asks (.list command) .togglePolling
  | refresh (command : ListCommand) : Asks (.list command) .refresh
  | advise (command : ListCommand) (kind : DetailKind) (query : String) :
    Asks (.list command) (.fetchDetail kind query)

/-- The key that quits wherever keys go. -/
def Key.isInterrupt (key : Key) : Bool :=
  key.control && key.code = .char 'c'

namespace Console

open Command (Asks)

variable {c : Console} {key : Key}

/-! ### What commands ask for -/

theorem asks_obeyPopup (c : Console) (command : PopupCommand) :
    Asks (.popup command) (c.obeyPopup command).1 := by
  cases command with
  | idle => exact .nothing _
  | close => exact .close _
  | turn kind =>
    simp only [obeyPopup, askAdvice]
    split
    · exact .turn _ kind _
    · exact .nothing _

theorem asks_answerQuestion (c : Console) (yes : Bool) :
    Asks (.answer yes) (c.answerQuestion yes).1 := by
  unfold answerQuestion
  split
  · split
    · exact .kill _ _
    · exact .nothing _
  · exact .nothing _

theorem asks_obeyExecutor (c : Console) (command : ExecutorCommand) :
    Asks (.executor command) (c.obeyExecutor command).1 := by
  rcases c.action_obeyExecutor command with none | ⟨query, db, run⟩ | load
  · rw [none]
    exact .nothing _
  · rw [run]
    exact .execute _ query db
  · rw [load]
    exact .loadDatabases _

theorem asks_obeyList (c : Console) (command : ListCommand) :
    Asks (.list command) (c.obeyList command).1 := by
  cases command with
  | quit => exact .leave _
  | togglePolling => exact .togglePolling _
  | refresh => exact .refresh _
  | ask kind =>
    simp only [obeyList, askAdvice]
    split
    · exact .advise _ kind _
    · exact .nothing _
  | _ => exact .nothing _

theorem asks_press (c : Console) (key : Key) : Asks (c.command key) (c.press key).1 := by
  rw [press_eq_obey]
  cases c.command key with
  | quit => exact .quit
  | popup command => exact c.asks_obeyPopup command
  | answer yes => exact c.asks_answerQuestion yes
  | filter command => exact .nothing _
  | nextPage => exact .nothing _
  | executor command => exact c.asks_obeyExecutor command
  | list command => exact c.asks_obeyList command

theorem given_of_executor
    (own : (∃ query db, (c.press key).1 = .execute query db) ∨
      (c.press key).1 = .loadDatabases) :
    c.detail = none ∧ c.mode = .normal ∧ c.page = .executor := by
  have asks := c.asks_press key
  have given := c.given_command key
  generalize c.command key = command at asks given
  generalize (c.press key).1 = action at asks own
  cases asks with
  | execute | loadDatabases => exact given
  | _ =>
    rcases own with ⟨query, db, run⟩ | load
    · cases run
    · cases load

theorem given_of_isAdvice (advice : (c.press key).1.isAdvice = true) :
    c.detail ≠ none ∨ c.mode = .normal ∧ c.page ≠ .executor := by
  have asks := c.asks_press key
  have given := c.given_command key
  generalize c.command key = command at asks given
  generalize (c.press key).1 = action at asks advice
  cases asks with
  | close | turn => exact .inl given
  | advise => exact .inr given.2
  | _ => cases advice

/-! ### Where keys go -/

/-- Keys go to the popup, to the question, to the filter or to the executor. -/
def Busy (c : Console) : Prop :=
  c.detail ≠ none ∨ c.mode ≠ .normal ∨ c.page = .executor

theorem Busy.not_list (busy : Busy c) {command : ListCommand} : ¬Given c (.list command) := by
  rintro ⟨closed, normal, page⟩
  rcases busy with opened | mode | executor
  · exact opened closed
  · exact mode normal
  · exact page executor

theorem command_ne_quit (plain : key.isInterrupt = false) : c.command key ≠ .quit := by
  have plain : ¬(key.control && key.code = .char 'c') = true := Bool.eq_false_iff.mp plain
  unfold command Command.ofKey
  rw [if_neg plain]
  split
  · nofun
  · split
    · nofun
    · nofun
    · split
      · nofun
      · split <;> nofun

theorem Busy.action (busy : Busy c) (plain : key.isInterrupt = false) :
    (c.press key).1 ≠ .quit ∧ (c.press key).1 ≠ .togglePolling ∧ (c.press key).1 ≠ .refresh := by
  have asks := c.asks_press key
  have given := c.given_command key
  have stays := command_ne_quit (c := c) plain
  generalize c.command key = command at asks given stays
  generalize (c.press key).1 = action at asks
  cases asks with
  | quit => exact (stays rfl).elim
  | leave | togglePolling | refresh => exact (busy.not_list given).elim
  | _ => exact ⟨nofun, nofun, nofun⟩

theorem Busy.exists_press (busy : Busy c) (plain : key.isInterrupt = false)
    (unfiltered : c.detail ≠ none ∨ c.mode ≠ .filter) :
    ∃ page mode detail executor notice, (c.press key).2 = { c with
      page := page, mode := mode, detail := detail, executor := executor, notice := notice } := by
  have given := c.given_command key
  have stays := command_ne_quit (c := c) plain
  rw [press_eq_obey]
  generalize c.command key = command at given stays
  cases command with
  | quit => exact (stays rfl).elim
  | popup command =>
    obtain ⟨detail, changed⟩ := c.exists_obeyPopup command
    exact ⟨c.page, c.mode, detail, c.executor, c.notice, changed⟩
  | answer yes =>
    obtain ⟨-, asked, mode⟩ := given
    obtain ⟨notice, changed⟩ := exists_answerQuestion mode yes
    exact ⟨c.page, .normal, c.detail, c.executor, notice, changed⟩
  | filter command =>
    obtain ⟨closed, mode⟩ := given
    rcases unfiltered with opened | other
    · exact (opened closed).elim
    · exact (other mode).elim
  | nextPage => exact ⟨c.page.next, c.mode, c.detail, c.executor, c.notice, rfl⟩
  | executor command =>
    obtain ⟨page, executor, changed⟩ := c.exists_obeyExecutor command
    exact ⟨page, c.mode, c.detail, executor, c.notice, changed⟩
  | list command => exact (busy.not_list given).elim

/-! ### Keys that type -/

section
variable (closed : c.detail = none) (plain : key.isInterrupt = false)
include closed plain

theorem press_in_question {asked : KillPlan} (mode : c.mode = .confirm asked) :
    ∃ notice, (c.press key).2 = { c with mode := .normal, notice := notice } := by
  have plain : ¬(key.control && key.code = .char 'c') = true := Bool.eq_false_iff.mp plain
  have command : c.command key = .answer (Command.isYes key) := by
    unfold Console.command Command.ofKey
    rw [if_neg plain, closed, mode]
    rfl
  rw [press_eq_obey, command]
  exact exists_answerQuestion mode _

theorem press_in_filter (mode : c.mode = .filter) :
    c.press key = (.none, (c.obeyFilter (.ofKey key)).clampCursor) := by
  have plain : ¬(key.control && key.code = .char 'c') = true := Bool.eq_false_iff.mp plain
  have command : c.command key = .filter (.ofKey key) := by
    unfold Console.command Command.ofKey
    rw [if_neg plain, closed, mode]
    rfl
  rw [press_eq_obey, command]
  rfl

theorem engine_press_in_filter (mode : c.mode = .filter) (coherent : Engine.Coherent c.engine) :
    (c.press key).2.engine = { c.engine with
      filter := (c.press key).2.engine.filter
      visible := View.positions c.engine.snapshot (c.press key).2.engine.filter
        c.engine.sorting } := by
  rw [press_in_filter closed plain mode]
  cases FilterCommand.ofKey key with
  | idle | finish =>
    show c.engine = { c.engine with
      visible := View.positions c.engine.snapshot c.engine.filter c.engine.sorting }
    rw [← coherent.visible]
  | abandon | erase | write => rfl

theorem press_char_in_filter (mode : c.mode = .filter) {ch : Char} (code : key.code = .char ch) :
    c.press key = (.none, { c with engine := c.engine.pushFilter ch }.clampCursor) := by
  have means : FilterCommand.ofKey key = .write ch := by rw [FilterCommand.ofKey, code]
  rw [press_in_filter closed plain mode, means, obeyFilter]

end

theorem press_char_in_executor (closed : c.detail = none) (normal : c.mode = .normal)
    (page : c.page = .executor) (plain : key.control = false) {ch : Char}
    (code : key.code = .char ch) :
    c.press key =
      (.none, c.withExecutor { c.executor with query := c.executor.query.push ch }) := by
  have command : c.command key = .executor (.write ch) := by
    unfold Console.command Command.ofKey ExecutorCommand.ofKey
    rw [plain, closed, normal, page, code]
    rfl
  rw [press_eq_obey, command]
  rfl

theorem Busy.quitting (busy : Busy c) (plain : key.isInterrupt = false) :
    (c.press key).2.quitting = c.quitting := by
  by_cases filtering : c.detail = none ∧ c.mode = .filter
  · obtain ⟨closed, mode⟩ := filtering
    rw [press_in_filter closed plain mode]
    cases FilterCommand.ofKey key <;> rfl
  · obtain ⟨page, mode, detail, executor, notice, changed⟩ :=
      busy.exists_press plain (not_and_or.mp filtering)
    rw [changed]

end Console

end SessionMonitor
