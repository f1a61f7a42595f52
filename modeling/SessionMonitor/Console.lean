import SessionMonitor.Console.Detail
import SessionMonitor.Console.Executor
import SessionMonitor.Engine

/-!
# The console

What the operator sees and does: the page, the row under the cursor, the popup, the executor and
the notices, around the engine.
-/

namespace SessionMonitor

inductive Page where
  | sessions
  | dashboard
  | executor
deriving DecidableEq, Repr

namespace Page

def next : Page → Page
  | sessions => dashboard
  | dashboard => executor
  | executor => sessions

def title : Page → String
  | sessions => "Processes"
  | dashboard => "Dashboard"
  | executor => "Query Executor"

end Page

/-- What keys mean. -/
inductive Mode where
  | normal
  | filter
  | confirm (plan : KillPlan)
deriving DecidableEq, Repr

inductive NoticeLevel where
  | info
  | error
deriving DecidableEq, Repr

structure Notice where
  level : NoticeLevel
  words : String
deriving DecidableEq, Repr

structure Console where
  engine : Engine
  page : Page
  mode : Mode
  /-- The row of the table that keys act on. -/
  cursor : Nat
  detail : Option Detail
  executor : Executor
  notice : Option Notice
  /-- The failure of the last request for the process list, if it failed. -/
  pollFailure : Option Failure
  updatedAt : Option Timestamp
  quitting : Bool

namespace Console

def ofOptions (options : Engine.Options) : Console where
  engine := .ofOptions options
  page := .sessions
  mode := .normal
  cursor := 0
  detail := none
  executor := .initial
  notice := none
  pollFailure := none
  updatedAt := none
  quitting := false

/-! ### The cursor -/

def cursorSession? (c : Console) : Option Session :=
  c.engine.visibleAt? c.cursor

/-- Moves the cursor down, from the last row to the first. -/
def cursorDown (c : Console) : Console :=
  let size := c.engine.visibleSize
  { c with cursor := if size = 0 then 0 else (c.cursor + 1) % size }

/-- Moves the cursor up, from the first row to the last. -/
def cursorUp (c : Console) : Console :=
  let size := c.engine.visibleSize
  { c with cursor :=
      if size = 0 then 0 else if c.cursor = 0 then size - 1 else c.cursor - 1 }

/-- Puts the cursor on the last row if it is below. -/
def clampCursor (c : Console) : Console :=
  { c with cursor := min c.cursor (c.engine.visibleSize - 1) }

/-! ### Notices -/

def notify (c : Console) (words : String) : Console :=
  { c with notice := some ⟨.info, words⟩ }

def notifyError (c : Console) (words : String) : Console :=
  { c with notice := some ⟨.error, words⟩ }

/-! ### Marks and kills -/

def toggleAtCursor (c : Console) : Console :=
  match c.cursorSession? with
  | some session => { c with engine := c.engine.toggleSelection session.id }
  | none => c

/-- Marks the shown sessions, or takes all marks if they are marked. -/
def toggleAll (c : Console) : Console :=
  { c with engine :=
      if c.engine.allVisibleSelected then c.engine.clearSelection else c.engine.selectVisible }

def beginKill (c : Console) : Console :=
  match c.engine.planKillSelected with
  | .ok plan => { c with mode := .confirm plan }
  | .error refusal => c.notifyError refusal.message

def takeKillPlan (c : Console) : Option KillPlan × Console :=
  match c.mode with
  | .confirm plan => (some plan, { c with mode := .normal })
  | _ => (none, c)

/-- Takes the question away and plans again for the same sessions, as some may have ended. -/
def confirmKill (c : Console) : Option KillPlan × Console :=
  match c.takeKillPlan with
  | (none, c) => (none, c)
  | (some asked, c) => match c.engine.planKill (asked.live ++ asked.gone) with
    | .ok plan => (some plan, c)
    | .error refusal => (none, c.notifyError refusal.message)

/-! ### Polling -/

/-- Whether the process list is asked for again and again. -/
def isLive (c : Console) : Bool :=
  c.engine.scheduler.running

def showPollOutcome (c : Console) (now : Timestamp) : PollOutcome Failure → Console
  | .applied _ _ => { c with pollFailure := none, updatedAt := some now }.clampCursor
  | .failed failure =>
    { c.notifyError ("Refresh failed: " ++ failure.message) with pollFailure := some failure }
  | .stale => c

/-! ### The popup -/

/-- Opens the popup for the session under the cursor. Gives the statement to ask about. -/
def openDetail (c : Console) (kind : DetailKind) : Option String × Console :=
  match c.cursorSession? with
  | none => (none, c)
  | some session =>
    (session.statement?, { c with detail := some (.ofSession session kind) })

/-- Turns the popup to another kind of advice. Gives the statement to ask about. -/
def switchDetail (c : Console) (kind : DetailKind) : Option String × Console :=
  match c.detail with
  | none => (none, c)
  | some detail =>
    if detail.kind = kind then (none, c)
    else (detail.statement?, { c with detail := some (.ofSession detail.session kind) })

def attachDetail (c : Console) (requestId : UInt64) : Console :=
  { c with detail := c.detail.map fun detail => { detail with requestId := some requestId } }

/-- Fills the popup, if it waits for this request. Says whether it does. -/
def resolveDetail (c : Console) (requestId : UInt64) (answer : Except Failure Advice) :
    Bool × Console :=
  match c.detail with
  | none => (false, c)
  | some detail =>
    if detail.requestId = some requestId then
      (true, { c with detail := some { detail with content := Detail.contentOf answer } })
    else (false, c)

def closeDetail (c : Console) : Console :=
  { c with detail := none }

/-! ### The executor -/

def withExecutor (c : Console) (executor : Executor) : Console :=
  { c with executor := executor }

/-- Begins to run the statement. Gives what to send, unless one runs already or nothing is
typed. -/
def beginExecute (c : Console) : Option (String × Option String) × Console :=
  if c.executor.isRunning then (none, c)
  else
    let query := Text.trim c.executor.query
    if query = "" then
      (none, c.withExecutor { c.executor with output := .failed (.refused .emptyQuery) })
    else
      (some (query, c.executor.database?), c.withExecutor { c.executor with output := .running })

end Console

end SessionMonitor
