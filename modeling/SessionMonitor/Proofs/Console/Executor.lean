import SessionMonitor.Proofs.Console.Edits

/-!
# Keys and the executor

What keys do about the outcome that the executor shows, and which statement they send. Only a
statement that has been begun makes the executor wait.
-/

namespace SessionMonitor

/-- A statement with the database that it runs in, if it is not the one that the server chooses. -/
structure Statement where
  query : String
  db : Option String
deriving DecidableEq, Repr

def Statement.ofAction? : Action → Option Statement
  | .execute query db => some ⟨query, db⟩
  | _ => none

namespace Executor

def statement (x : Executor) : Statement :=
  ⟨Text.trim x.query, x.database?⟩

theorem isRunning_iff {x : Executor} : x.isRunning = true ↔ x.output = .running := by
  constructor
  · intro running
    unfold isRunning at running
    split at running
    · assumption
    · cases running
  · intro running
    rw [isRunning, running]

theorem output_ne_running {x : Executor} (idle : x.isRunning = false) : x.output ≠ .running :=
  mt isRunning_iff.mpr (Bool.eq_false_iff.mp idle)

theorem mem_of_database? {x : Executor} {name : String} (chosen : x.database? = some name) :
    name ∈ x.databases := by
  obtain ⟨place, -, found⟩ := Option.bind_eq_some_iff.mp chosen
  exact List.mem_of_getElem? found

end Executor

namespace Console

/-- What a key can do about the outcome that the executor shows and about statements. -/
inductive ExecutorTurn (c : Console) : Action × Console → Prop where
  | kept {step : Action × Console} (output : step.2.executor.output = c.executor.output)
    (silent : Statement.ofAction? step.1 = none) : ExecutorTurn c step
  | refused {step : Action × Console} (idle : c.executor.isRunning = false)
    (output : step.2.executor.output = .failed (.refused .emptyQuery))
    (silent : Statement.ofAction? step.1 = none) : ExecutorTurn c step
  | begun {step : Action × Console} (idle : c.executor.isRunning = false)
    (inked : c.executor.statement.query ≠ "") (output : step.2.executor.output = .running)
    (sends : Statement.ofAction? step.1 = some c.executor.statement) : ExecutorTurn c step

variable {c : Console}

theorem executorTurn_askAdvice {kind : DetailKind} {opened : Option String × Console}
    (changed : ∃ detail, opened.2 = { c with detail := detail }) :
    ExecutorTurn c (askAdvice kind opened) := by
  obtain ⟨statement, finish⟩ := opened
  obtain ⟨detail, rfl⟩ := changed
  cases statement <;> exact .kept rfl rfl

theorem action_execute (idle : c.executor.output ≠ .running)
    (inked : Text.trim c.executor.query ≠ "") :
    c.execute.1 = .execute (Text.trim c.executor.query) c.executor.database? := by
  have idle : ¬c.executor.isRunning = true := mt Executor.isRunning_iff.mp idle
  rw [execute, beginExecute, if_neg idle]
  dsimp only
  rw [if_neg inked]

theorem executorTurn_execute (c : Console) : ExecutorTurn c c.execute := by
  cases running : c.executor.isRunning with
  | true =>
    rw [execute, beginExecute, if_pos running]
    exact .kept rfl rfl
  | false =>
    rw [execute, beginExecute, if_neg (by simp [running])]
    dsimp only
    by_cases blank : Text.trim c.executor.query = ""
    · rw [if_pos blank]
      exact .refused running rfl rfl
    · rw [if_neg blank]
      exact .begun running blank rfl rfl

theorem executorTurn_obeyExecutor (c : Console) (command : ExecutorCommand) :
    ExecutorTurn c (c.obeyExecutor command) := by
  cases command with
  | execute => exact c.executorTurn_execute
  | chooseDatabase =>
    simp only [obeyExecutor, chooseDatabase]
    split <;> exact .kept rfl rfl
  | idle | leave | erase | clear | write => exact .kept rfl rfl

theorem executorTurn_obeyList (c : Console) (command : ListCommand) :
    ExecutorTurn c (c.obeyList command) := by
  cases command with
  | ask kind => exact executorTurn_askAdvice (c.exists_openDetail kind)
  | mark =>
    obtain ⟨engine, changed⟩ := c.exists_toggleAtCursor
    rw [obeyList, changed]
    exact .kept rfl rfl
  | beginKill =>
    obtain ⟨mode, notice, changed⟩ := c.exists_beginKill
    rw [obeyList, changed]
    exact .kept rfl rfl
  | _ => exact .kept rfl rfl

theorem executorTurn_press (c : Console) (key : Key) : ExecutorTurn c (c.press key) := by
  have given := c.given_command key
  rw [press_eq_obey]
  cases means : c.command key with
  | quit | nextPage => exact .kept rfl rfl
  | popup command =>
    cases command with
    | idle | close => exact .kept rfl rfl
    | turn kind => exact executorTurn_askAdvice (c.exists_switchDetail kind)
  | answer yes =>
    rw [means] at given
    obtain ⟨-, asked, mode⟩ := given
    obtain ⟨notice, changed⟩ := exists_answerQuestion mode yes
    refine .kept (by rw [obey, changed]) ?_
    simp only [obey, answerQuestion]
    cases yes with
    | false => rfl
    | true =>
      rw [if_pos rfl]
      split <;> rfl
  | filter command => cases command <;> exact .kept rfl rfl
  | executor command => exact c.executorTurn_obeyExecutor command
  | list command => exact c.executorTurn_obeyList command

end Console

end SessionMonitor
