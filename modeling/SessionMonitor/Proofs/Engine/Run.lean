import SessionMonitor.Engine
import SessionMonitor.Proofs.Polling.Log

/-!
# Runs of the engine

Any operations on an engine, one after the other, and the log of what they do about polling: the
changes between running and stopped, the tickets given out and the answers taken.
-/

namespace SessionMonitor

/-- Whether the answer was taken into account. -/
def PollOutcome.counts {ε : Type} : PollOutcome ε → Bool
  | .stale => false
  | _ => true

namespace Engine

/-! ### Answers -/

section
variable {ε : Type} (e : Engine) (ticket : Ticket) (answer : Except ε Snapshot)

theorem resolvePoll_fresh (fresh : e.scheduler.isFresh ticket = true) :
    e.resolvePoll ticket answer =
      let answered := e.withScheduler (e.scheduler.accept ticket).2
      match answer with
      | .ok snapshot =>
        let applied := answered.applySnapshot snapshot
        (.applied snapshot.size (e.selection.size - applied.selection.size), applied)
      | .error fault => (.failed fault, answered) := by
  cases answer <;> simp only [resolvePoll, Scheduler.accept_fst, fresh, if_true]

theorem resolvePoll_stale (stale : e.scheduler.isFresh ticket = false) :
    e.resolvePoll ticket answer = (.stale, e.withScheduler (e.scheduler.accept ticket).2) := by
  simp only [resolvePoll, Scheduler.accept_fst, stale, Bool.false_eq_true, if_false]

theorem resolvePoll_scheduler :
    (e.resolvePoll ticket answer).2.scheduler = (e.scheduler.accept ticket).2 := by
  cases fresh : e.scheduler.isFresh ticket with
  | false => rw [resolvePoll_stale e ticket answer fresh]; rfl
  | true => rw [resolvePoll_fresh e ticket answer fresh]; cases answer <;> rfl

theorem resolvePoll_counts :
    (e.resolvePoll ticket answer).1.counts = e.scheduler.isFresh ticket := by
  cases fresh : e.scheduler.isFresh ticket with
  | false => rw [resolvePoll_stale e ticket answer fresh]; rfl
  | true => rw [resolvePoll_fresh e ticket answer fresh]; cases answer <;> rfl

end

/-! ### Operations -/

/-- The operations on an engine. -/
inductive Step (ε : Type) where
  | resumePolling
  | pausePolling
  | togglePolling
  | pollTick
  | requestRefresh
  | resolvePoll (ticket : Ticket) (answer : Except ε Snapshot)
  | requestSort (key : SortKey)
  | setFilter (query : String)
  | pushFilter (c : Char)
  | popFilter
  | clearFilter
  | toggleSelection (id : SessionId)
  | selectVisible
  | clearSelection
  | completeKill (ids : List SessionId)

variable {ε : Type}

def perform (e : Engine) : Step ε → Engine
  | .resumePolling => e.resumePolling.2
  | .pausePolling => e.pausePolling
  | .togglePolling => e.togglePolling.2
  | .pollTick => e.pollTick.2
  | .requestRefresh => e.requestRefresh.2
  | .resolvePoll ticket answer => (e.resolvePoll ticket answer).2
  | .requestSort key => e.requestSort key
  | .setFilter query => e.setFilter (.ofQuery query)
  | .pushFilter c => e.pushFilter c
  | .popFilter => e.popFilter
  | .clearFilter => e.clearFilter
  | .toggleSelection id => e.toggleSelection id
  | .selectVisible => e.selectVisible
  | .clearSelection => e.clearSelection
  | .completeKill ids => (e.completeKill ids).2

/-- The state after some operations. -/
def run (e : Engine) (steps : List (Step ε)) : Engine :=
  steps.foldl perform e

/-- The ticket that an operation gives out. -/
def ticket? (e : Engine) : Step ε → Option Ticket
  | .resumePolling => e.resumePolling.1
  | .togglePolling => e.togglePolling.1
  | .pollTick => e.pollTick.1
  | .requestRefresh => some e.requestRefresh.1
  | .completeKill ids => some (e.completeKill ids).1
  | _ => none

/-- What an operation does about polling, seen from outside. -/
def pollEvents (e : Engine) (step : Step ε) : List PollEvent :=
  e.scheduler.change (e.perform step).scheduler (e.ticket? step) ++ match step with
    | .resolvePoll ticket answer =>
      [.answered ticket answer.toOption (e.resolvePoll ticket answer).1.counts]
    | _ => []

theorem pollEvents_of_no_answer (e : Engine) (step : Step ε)
    (unanswered : ∀ ticket answer, step ≠ .resolvePoll ticket answer) :
    e.pollEvents step = e.scheduler.change (e.perform step).scheduler (e.ticket? step) := by
  cases step with
  | resolvePoll ticket answer => exact (unanswered ticket answer rfl).elim
  | _ => exact List.append_nil _

theorem pollEvents_resolvePoll (e : Engine) (ticket : Ticket) (answer : Except ε Snapshot) :
    e.pollEvents (.resolvePoll ticket answer) =
      [.answered ticket answer.toOption (e.scheduler.isFresh ticket)] := by
  have running :
      (e.perform (.resolvePoll ticket answer)).scheduler.running = e.scheduler.running := by
    rw [perform, resolvePoll_scheduler, Scheduler.accept_running]
  simp only [pollEvents, Scheduler.change, running, if_true, resolvePoll_counts]
  rfl

/-- What a run does about polling, oldest first. -/
def pollLog (e : Engine) : List (Step ε) → List PollEvent
  | [] => []
  | step :: rest => e.pollEvents step ++ (e.perform step).pollLog rest

/-- The snapshots that a run has taken over, with their tickets, oldest first. -/
def applied (e : Engine) (steps : List (Step ε)) : List (Ticket × Snapshot) :=
  (e.pollLog steps).filterMap PollEvent.applied?

theorem run_append (e : Engine) (first second : List (Step ε)) :
    e.run (first ++ second) = (e.run first).run second :=
  List.foldl_append

theorem pollLog_append (e : Engine) (first second : List (Step ε)) :
    e.pollLog (first ++ second) = e.pollLog first ++ (e.run first).pollLog second := by
  induction first generalizing e with
  | nil => rfl
  | cons step rest ih => simp [pollLog, ih, run, List.append_assoc]

/-- What every operation keeps, every run keeps. -/
theorem run_keeps {P : Engine → Prop} (kept : ∀ e (step : Step ε), P e → P (e.perform step))
    {e : Engine} (holds : P e) (steps : List (Step ε)) : P (e.run steps) := by
  induction steps generalizing e with
  | nil => exact holds
  | cons step rest ih => exact ih (kept e step holds)

end Engine

end SessionMonitor
