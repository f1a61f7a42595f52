import SessionMonitor.Console

/-!
# Keys

What the keys do. Most only change the console; what needs the server or the timer is given back
as an action.
-/

namespace SessionMonitor

inductive KeyCode where
  | char (c : Char)
  | enter
  | escape
  | tab
  | backTab
  | backspace
  | delete
  | up
  | down
  | left
  | right
  | home
  | function (number : Nat)
deriving DecidableEq, Repr

structure Key where
  code : KeyCode
  control : Bool := false
  alt : Bool := false
  shift : Bool := false
deriving DecidableEq, Repr

/-- What a key asks for beyond the console. -/
inductive Action where
  | none
  | quit
  | togglePolling
  | refresh
  | kill (plan : KillPlan)
  | execute (query : String) (db : Option String)
  | fetchDetail (kind : DetailKind) (query : String)
  | closeDetail
  | loadDatabases
deriving DecidableEq, Repr

namespace Console

def quit (c : Console) : Action × Console :=
  (.quit, { c with quitting := true })

def askAdvice (kind : DetailKind) (opened : Option String × Console) : Action × Console :=
  match opened with
  | (some query, c) => (.fetchDetail kind query, c)
  | (none, c) => (.none, c)

def execute (c : Console) : Action × Console :=
  match c.beginExecute with
  | (some (query, db), c) => (.execute query db, c)
  | (none, c) => (.none, c)

def pressInDetail (c : Console) (key : Key) : Action × Console :=
  match key.code with
  | .escape | .enter | .char 'q' => (.closeDetail, c.closeDetail)
  | .char 'e' => askAdvice .explain (c.switchDetail .explain)
  | .char 'r' => askAdvice .recommendations (c.switchDetail .recommendations)
  | _ => (.none, c)

def pressInConfirm (c : Console) (key : Key) : Action × Console :=
  match key.code with
  | .char 'y' | .char 'Y' => match c.confirmKill with
    | (some plan, c) => (.kill plan, c)
    | (none, c) => (.none, c)
  | _ => (.none, c.takeKillPlan.2.notify "Kill cancelled")

def editFilter (c : Console) (key : Key) : Console :=
  match key.code with
  | .enter => { c with mode := .normal }
  | .escape => { c with engine := c.engine.clearFilter, mode := .normal }
  | .backspace => { c with engine := c.engine.popFilter }
  | .char ch => { c with engine := c.engine.pushFilter ch }
  | _ => c

def pressInFilter (c : Console) (key : Key) : Action × Console :=
  (.none, (c.editFilter key).clampCursor)

def pressInExecutor (c : Console) (key : Key) : Action × Console :=
  match key.code with
  | .enter => c.execute
  | .escape => (.none, { c with page := .sessions })
  | .backspace =>
    (.none, c.withExecutor
      { c.executor with query := String.ofList c.executor.query.toList.dropLast })
  | .char ch =>
    if key.control then
      match ch with
      | 'd' =>
        if c.executor.databases.isEmpty then (.loadDatabases, c)
        else (.none, c.withExecutor c.executor.cycleDatabase)
      | 'e' => c.execute
      | 'l' => (.none, c.withExecutor { c.executor with query := "" })
      | _ => (.none, c)
    else (.none, c.withExecutor { c.executor with query := c.executor.query.push ch })
  | _ => (.none, c)

def sortColumn? (ch : Char) : Option SortKey :=
  if '1' ≤ ch ∧ ch ≤ '8' then SortKey.ofColumn? (ch.toNat - '0'.toNat) else none

/-- Keys on the other pages that are letters, digits or signs. -/
def pressChar (c : Console) (ch : Char) : Action × Console :=
  match ch with
  | 'q' | 'Q' => c.quit
  | 'j' => (.none, c.cursorDown)
  | 'k' => (.none, c.cursorUp)
  | ' ' => (.none, c.toggleAtCursor.cursorDown)
  | 'a' => (.none, c.toggleAll)
  | 'c' => (.none, { c with engine := c.engine.clearSelection })
  | 'x' => (.none, c.beginKill)
  | '/' => (.none, { c with mode := .filter })
  | 'p' | 'P' => (.togglePolling, c)
  | 'r' | 'R' => (.refresh, c)
  | 'e' => askAdvice .explain (c.openDetail .explain)
  | ch => match sortColumn? ch with
    | some key => (.none, { c with engine := c.engine.requestSort key })
    | none => (.none, c)

def pressInList (c : Console) (key : Key) : Action × Console :=
  match key.code with
  | .down => (.none, c.cursorDown)
  | .up => (.none, c.cursorUp)
  | .escape => (.none, { c with engine := c.engine.clearFilter }.clampCursor)
  | .enter => askAdvice .recommendations (c.openDetail .recommendations)
  | .char ch => c.pressChar ch
  | _ => (.none, c)

/-- What a key does: the popup comes first, then the mode, then the page. -/
def press (c : Console) (key : Key) : Action × Console :=
  if key.control && key.code = .char 'c' then c.quit
  else if c.detail.isSome then c.pressInDetail key
  else match c.mode with
    | .confirm _ => c.pressInConfirm key
    | .filter => c.pressInFilter key
    | .normal =>
      if key.code = .tab then (.none, { c with page := c.page.next })
      else match c.page with
        | .executor => c.pressInExecutor key
        | .sessions | .dashboard => c.pressInList key

end Console

end SessionMonitor
