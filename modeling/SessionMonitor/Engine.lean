import SessionMonitor.History
import SessionMonitor.Polling
import SessionMonitor.Selection
import SessionMonitor.Summary
import SessionMonitor.View

/-!
# The engine

The state behind the screen: the last snapshot, how it is shown, what is marked, and the requests
for the next snapshot. What follows from the rest is kept up to date with every step.
-/

namespace SessionMonitor

/-- The sessions that a kill is meant for. -/
structure KillPlan where
  /-- Those that are in the snapshot. They will be sent. -/
  live : List SessionId
  /-- Those that are not. They are skipped. -/
  gone : List SessionId
deriving DecidableEq, Repr

inductive PollOutcome (ε : Type) where
  | applied (sessionCount pruned : Nat)
  | stale
  | failed (error : ε)
deriving DecidableEq, Repr

namespace Engine

structure Options where
  /-- The time between two requests, in milliseconds. -/
  pollInterval : Nat := Scheduler.defaultInterval
  historyCapacity : Nat := History.defaultCapacity
  pruneSelection : Bool := true
deriving DecidableEq, Repr

end Engine

structure Engine where
  options : Engine.Options
  snapshot : Snapshot
  sorting : Sorting
  filter : Filter
  selection : Selection
  history : History
  scheduler : Scheduler
  summary : Summary
  visible : List Nat

namespace Engine

def ofOptions (options : Options) : Engine where
  options := options
  snapshot := .empty
  sorting := .initial
  filter := .all
  selection := .empty
  history := .ofCapacity options.historyCapacity
  scheduler := .ofInterval options.pollInterval
  summary := .initial
  visible := []

/-! ### What is shown -/

def visibleSessions (e : Engine) : List Session :=
  e.visible.filterMap fun position => e.snapshot.sessions[position]?

def visibleIds (e : Engine) : List SessionId :=
  e.visibleSessions.map (·.id)

def visibleSize (e : Engine) : Nat :=
  e.visible.length

def visibleAt? (e : Engine) (row : Nat) : Option Session :=
  e.visible[row]?.bind fun position => e.snapshot.sessions[position]?

def blocked? (e : Engine) : Option Session :=
  e.summary.blocked.bind e.snapshot.get?

def refreshView (e : Engine) : Engine :=
  { e with visible := View.positions e.snapshot e.filter e.sorting }

def requestSort (e : Engine) (key : SortKey) : Engine :=
  { e with sorting := e.sorting.request key }.refreshView

def setFilter (e : Engine) (filter : Filter) : Engine :=
  { e with filter := filter }.refreshView

def pushFilter (e : Engine) (c : Char) : Engine :=
  e.setFilter (e.filter.push c)

def popFilter (e : Engine) : Engine :=
  e.setFilter e.filter.pop

def clearFilter (e : Engine) : Engine :=
  e.setFilter (.ofQuery "")

/-! ### Marks -/

def toggleSelection (e : Engine) (id : SessionId) : Engine :=
  { e with selection := e.selection.toggle id }

def selectVisible (e : Engine) : Engine :=
  { e with selection := .ofList e.visibleIds }

def clearSelection (e : Engine) : Engine :=
  { e with selection := .empty }

def allVisibleSelected (e : Engine) : Bool :=
  e.selection.covers e.visibleIds

/-! ### Polling -/

def withScheduler (e : Engine) (scheduler : Scheduler) : Engine :=
  { e with scheduler := scheduler }

def resumePolling (e : Engine) : Option Ticket × Engine :=
  e.scheduler.resume.map id e.withScheduler

def pausePolling (e : Engine) : Engine :=
  e.withScheduler e.scheduler.pause

def togglePolling (e : Engine) : Option Ticket × Engine :=
  e.scheduler.toggle.map id e.withScheduler

def pollTick (e : Engine) : Option Ticket × Engine :=
  e.scheduler.tick.map id e.withScheduler

def requestRefresh (e : Engine) : Ticket × Engine :=
  e.scheduler.outOfCycle.map id e.withScheduler

def applySnapshot (e : Engine) (snapshot : Snapshot) : Engine :=
  { e with
    history := e.history.record snapshot
    summary := .ofSnapshot snapshot
    snapshot := snapshot
    selection := if e.options.pruneSelection then e.selection.retainLive snapshot
      else e.selection }.refreshView

/-- Takes the answer to a request for the session list. An answer that does not count any more
changes nothing, and neither does a failure. -/
def resolvePoll {ε : Type} (e : Engine) (ticket : Ticket) (answer : Except ε Snapshot) :
    PollOutcome ε × Engine :=
  let (fresh, scheduler) := e.scheduler.accept ticket
  let answered := e.withScheduler scheduler
  if fresh then
    match answer with
    | .ok snapshot =>
      let applied := answered.applySnapshot snapshot
      (.applied snapshot.size (e.selection.size - applied.selection.size), applied)
    | .error fault => (.failed fault, answered)
  else (.stale, answered)

/-! ### Kills -/

/-- Tells the sessions in the snapshot from those that have ended. -/
def planKill (e : Engine) (ids : List SessionId) : Except Refusal KillPlan :=
  if ids.isEmpty then .error .emptySelection
  else
    let (live, gone) := ids.partition e.snapshot.contains
    if live.isEmpty then .error (.noLiveTargets ids.length) else .ok ⟨live, gone⟩

def planKillSelected (e : Engine) : Except Refusal KillPlan :=
  e.planKill e.selection.ids

/-- After a kill: the sessions lose their marks, and the session list is asked for. -/
def completeKill (e : Engine) (ids : List SessionId) : Ticket × Engine :=
  { e with selection := e.selection.eraseAll ids }.requestRefresh

end Engine

end SessionMonitor
