import SessionMonitor.Console.Keys
import SessionMonitor.Wire.Kill

/-!
# The controller

How the console answers to events: keys, ticks of the timer, and answers of the server. What has to
be done outside, a request to the server or a command to the timer, is given back as effects.
-/

namespace SessionMonitor

inductive Request where
  | snapshot (ticket : Ticket)
  | databases
  | kill (plan : KillPlan)
  | execute (query : String) (db : Option String)
  | detail (requestId : UInt64) (kind : DetailKind) (query : String)
deriving DecidableEq, Repr

inductive Effect where
  | send (request : Request)
  /-- Whatever comes of the request for advice is not wanted any more. -/
  | cancelDetail (requestId : UInt64)
  | startTimer
  | stopTimer
deriving DecidableEq, Repr

inductive Event where
  | key (key : Key)
  | resize (width height : Nat)
  | pollTick
  | pollCompleted (ticket : Ticket) (answer : Except Failure Snapshot)
  | killCompleted (ids gone : List SessionId) (answer : Except Failure KillResponse)
  | executeCompleted (answer : Except Failure ExecuteResult)
  | detailLoaded (requestId : UInt64) (answer : Except Failure Advice)
  | databasesLoaded (answer : Except Failure (List String))

/-- The console and the request for advice that is under way. -/
structure Controller where
  console : Console
  activeDetail : Option UInt64
  lastRequestId : UInt64

namespace Controller

def ofOptions (options : Engine.Options) : Controller :=
  ⟨.ofOptions options, none, 0⟩

def withConsole (c : Controller) (console : Console) : Controller :=
  { c with console := console }

def withEngine (c : Controller) (engine : Engine) : Controller :=
  c.withConsole { c.console with engine := engine }

/-- Asks for the process list with a ticket that has been given out. -/
def poll (c : Controller) (issued : Option Ticket × Engine) : Controller × List Effect :=
  (c.withEngine issued.2, issued.1.toList.map fun ticket => .send (.snapshot ticket))

def resume (c : Controller) : Controller × List Effect :=
  match c.console.engine.resumePolling with
  | (some ticket, engine) => (c.withEngine engine, [.startTimer, .send (.snapshot ticket)])
  | (none, engine) => (c.withEngine engine, [])

def pause (c : Controller) : Controller × List Effect :=
  (c.withEngine c.console.engine.pausePolling, [.stopTimer])

def refresh (c : Controller) : Controller × List Effect :=
  c.poll (c.console.engine.requestRefresh.map some fun engine => engine)

def thenNotify (step : Controller × List Effect) (words : String) : Controller × List Effect :=
  (step.1.withConsole (step.1.console.notify words), step.2)

/-- Begins: asks for the first process list and for the databases, and starts polling unless it is
to be paused. -/
def start (c : Controller) (paused : Bool) : Controller × List Effect :=
  let (c, effects) :=
    if paused then thenNotify c.refresh "Polling paused, press p to resume" else c.resume
  (c, effects ++ [.send .databases])

def cancelDetail (c : Controller) : Controller × List Effect :=
  ({ c with activeDetail := none }, c.activeDetail.toList.map .cancelDetail)

/-- Asks for advice in place of what was asked before. -/
def fetchDetail (c : Controller) (kind : DetailKind) (query : String) :
    Controller × List Effect :=
  let (c, cancelled) := c.cancelDetail
  let requestId := c.lastRequestId + 1
  ({ console := c.console.attachDetail requestId
     activeDetail := some requestId
     lastRequestId := requestId },
    cancelled ++ [.send (.detail requestId kind query)])

def perform (c : Controller) : Action → Controller × List Effect
  | .none => (c, [])
  | .quit => (c, [])
  | .togglePolling =>
    if c.console.isLive then thenNotify c.pause "Polling paused"
    else thenNotify c.resume "Polling resumed"
  | .refresh => c.refresh
  | .kill plan => (c, [.send (.kill plan)])
  | .execute query db => (c, [.send (.execute query db)])
  | .fetchDetail kind query => c.fetchDetail kind query
  | .closeDetail => c.cancelDetail
  | .loadDatabases =>
    (c.withConsole (c.console.notify "Loading databases..."), [.send .databases])

def killReport (gone : List SessionId) (response : KillResponse) : String :=
  response.summary ++
    if gone.isEmpty then "" else ", " ++ toString gone.length ++ " already ended"

/-- After a kill: the sessions lose their marks, and the process list is asked for. -/
def finishKill (c : Controller) (ids gone : List SessionId) (response : KillResponse) :
    Controller × List Effect :=
  let (c, effects) := c.poll ((c.console.engine.completeKill ids).map some fun engine => engine)
  let report := killReport gone response
  (c.withConsole
    (if response.failed.isEmpty then c.console.notify report else c.console.notifyError report),
    effects)

def finishPoll (c : Controller) (now : Timestamp) (ticket : Ticket)
    (answer : Except Failure Snapshot) : Controller :=
  let (outcome, engine) := c.console.engine.resolvePoll ticket answer
  c.withConsole ({ c.console with engine := engine }.showPollOutcome now outcome)

def finishDetail (c : Controller) (requestId : UInt64) (answer : Except Failure Advice) :
    Controller :=
  { c with
    console := (c.console.resolveDetail requestId answer).2
    activeDetail := if c.activeDetail = some requestId then none else c.activeDetail }

def handle (c : Controller) (now : Timestamp) : Event → Controller × List Effect
  | .key key =>
    let (action, console) := c.console.press key
    (c.withConsole console).perform action
  | .resize _ _ => (c, [])
  | .pollTick => c.poll c.console.engine.pollTick
  | .pollCompleted ticket answer => (c.finishPoll now ticket answer, [])
  | .killCompleted ids gone (.ok response) => c.finishKill ids gone response
  | .killCompleted _ _ (.error failure) =>
    (c.withConsole (c.console.notifyError ("Kill failed: " ++ failure.message)), [])
  | .executeCompleted answer =>
    (c.withConsole (c.console.withExecutor (c.console.executor.finish answer)), [])
  | .detailLoaded requestId answer => (c.finishDetail requestId answer, [])
  | .databasesLoaded (.ok names) =>
    (c.withConsole (c.console.withExecutor (c.console.executor.setDatabases names)), [])
  | .databasesLoaded (.error failure) =>
    (c.withConsole (c.console.notifyError ("Could not load databases: " ++ failure.message)), [])

end Controller

end SessionMonitor
