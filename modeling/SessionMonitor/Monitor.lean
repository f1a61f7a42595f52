import SessionMonitor.Backend.Operation
import SessionMonitor.Controller
import SessionMonitor.Timer

/-!
# The running monitor

A controller with the timer and the requests under way. Each request is a call to the server that
stays open until it is answered or cancelled; answers come back as events, which the controller
handles in the order in which they arrive.
-/

namespace SessionMonitor

namespace Request

def operation : Request → Operation
  | .snapshot _ => .processes
  | .databases => .databases
  | .kill plan => .kill plan.live
  | .execute query db => .execute query db
  | .detail _ .recommendations query => .recommend query
  | .detail _ .explain query => .explain query

/-- The event by which a request reports what came of it: the body of a good answer, or a
failure. -/
def completed (request : Request) (outcome : Except Failure (List UInt8)) (now : Timestamp) :
    Event :=
  match request with
  | .snapshot ticket => .pollCompleted ticket (outcome.bind (Answer.snapshot · now))
  | .databases => .databasesLoaded (outcome.bind Answer.databases)
  | .kill plan => .killCompleted plan.live plan.gone (outcome.bind Answer.kill)
  | .execute _ _ => .executeCompleted (outcome.bind Answer.execute)
  | .detail requestId .recommendations _ =>
    .detailLoaded requestId (outcome.bind fun body => (Answer.recommend body).map .recommendations)
  | .detail requestId .explain _ =>
    .detailLoaded requestId (outcome.bind fun body => (Answer.explain body).map .explain)

def isDetail (request : Request) (requestId : UInt64) : Bool :=
  match request with
  | .detail id _ _ => id = requestId
  | _ => false

end Request

/-- A call to the server, in the order in which calls begin. -/
structure Call where
  request : Request
  isOpen : Bool

structure Monitor where
  controller : Controller
  timer : Timer
  /-- The time since the start, in milliseconds. -/
  clock : Nat
  calls : List Call
  closed : Bool
  quit : Bool
  /-- How many events have arrived from the timer and from calls. -/
  arrived : Nat

namespace Monitor

def ofOptions (options : Engine.Options) : Monitor where
  controller := .ofOptions options
  timer := .ofPeriod options.pollInterval
  clock := 0
  calls := []
  closed := false
  quit := false
  arrived := 0

/-- Does one thing that the controller wants. After the shutdown nothing is done. -/
def apply (r : Monitor) (effect : Effect) : Monitor :=
  if r.closed then r
  else match effect with
    | .send request => { r with calls := r.calls ++ [⟨request, true⟩] }
    | .cancelDetail requestId =>
      { r with calls := r.calls.map fun call =>
          if call.request.isDetail requestId then { call with isOpen := false } else call }
    | .startTimer => { r with timer := r.timer.start r.clock }
    | .stopTimer => { r with timer := r.timer.stop }

def continueWith (r : Monitor) (step : Controller × List Effect) : Monitor :=
  step.2.foldl apply { r with controller := step.1 }

def start (r : Monitor) (paused : Bool) : Monitor :=
  r.continueWith (r.controller.start paused)

def deliver (r : Monitor) (now : Timestamp) (event : Event) : Monitor :=
  let r := r.continueWith (r.controller.handle now event)
  { r with quit := r.controller.console.quitting }

def arrive (r : Monitor) (now : Timestamp) (event : Event) : Monitor :=
  { r.deliver now event with arrived := r.arrived + 1 }

def advance (r : Monitor) (now : Timestamp) (milliseconds : Nat) : Monitor :=
  let clock := r.clock + milliseconds
  let (due, timer) := r.timer.wake clock
  let r := { r with clock := clock, timer := timer }
  if due then r.arrive now .pollTick else r

/-- Answers a call, if it is open. Says whether it was. -/
def respond (r : Monitor) (now : Timestamp) (number : Nat)
    (outcome : Except Failure (List UInt8)) (capturedAt : Timestamp) : Bool × Monitor :=
  match r.calls[number]? with
  | some ⟨request, true⟩ =>
    (true, { r with calls := r.calls.set number ⟨request, false⟩ }.arrive now
      (request.completed outcome capturedAt))
  | _ => (false, r)

def shutdown (r : Monitor) : Monitor :=
  { r with
    closed := true
    timer := r.timer.stop
    calls := r.calls.map fun call => { call with isOpen := false } }

end Monitor

end SessionMonitor
