import SessionMonitor.Polling
import SessionMonitor.Snapshot

/-!
# Logs of polling

What has been done about polling, event by event, and how a scheduler goes through it.
-/

namespace SessionMonitor

inductive PollEvent where
  /-- Polling has been started or stopped. -/
  | switched
  | issued (ticket : Ticket)
  /-- The answer to a ticket, a snapshot or a failure, has come, and has counted or not. -/
  | answered (ticket : Ticket) (snapshot : Option Snapshot) (counted : Bool)

namespace PollEvent

def isSwitch : PollEvent → Bool
  | switched => true
  | _ => false

def isIssue : PollEvent → Bool
  | issued _ => true
  | _ => false

def counted? : PollEvent → Option Ticket
  | answered ticket _ true => some ticket
  | _ => none

def applied? : PollEvent → Option (Ticket × Snapshot)
  | answered ticket (some snapshot) true => some (ticket, snapshot)
  | _ => none

theorem counted?_eq_some {event : PollEvent} {ticket : Ticket} :
    event.counted? = some ticket ↔ ∃ snapshot, event = answered ticket snapshot true := by
  unfold counted?
  split <;> simp_all

theorem mem_counted {log : List PollEvent} {ticket : Ticket} :
    ticket ∈ log.filterMap counted? ↔ ∃ snapshot, answered ticket snapshot true ∈ log := by
  simp only [List.mem_filterMap, counted?_eq_some]
  constructor
  · rintro ⟨_, member, snapshot, rfl⟩
    exact ⟨snapshot, member⟩
  · rintro ⟨snapshot, member⟩
    exact ⟨_, member, snapshot, rfl⟩

theorem countP_isSwitch_eq_zero {log : List PollEvent} :
    log.countP isSwitch = 0 ↔ switched ∉ log := by
  rw [List.countP_eq_zero]
  constructor
  · exact fun none member => none switched member rfl
  · intro absent event member found
    cases event with
    | switched => exact absent member
    | issued | answered => cases found

end PollEvent

namespace Scheduler

variable {s : Scheduler} {t : Ticket}

theorem isFresh_iff : s.isFresh t = true ↔
    t.generation = s.generation ∧ ∀ last, s.lastApplied = some last → last < t.seq := by
  unfold isFresh
  cases s.lastApplied <;> simp

theorem accept_fst (s : Scheduler) (t : Ticket) : (s.accept t).1 = s.isFresh t := by
  unfold accept
  split <;> simp_all

theorem accept_fresh (fresh : s.isFresh t = true) :
    (s.accept t).2 = { s with inFlight := s.inFlight - 1, lastApplied := some t.seq } := by
  simp [accept, fresh]

theorem accept_stale (stale : s.isFresh t = false) :
    (s.accept t).2 = { s with inFlight := s.inFlight - 1 } := by
  simp [accept, stale]

theorem accept_running (s : Scheduler) (t : Ticket) : (s.accept t).2.running = s.running := by
  unfold accept
  split <;> rfl

/-- The events of a step from one scheduler to another that gives out a ticket or none. -/
def change (s finish : Scheduler) (ticket : Option Ticket) : List PollEvent :=
  (if finish.running = s.running then [] else [.switched]) ++ ticket.toList.map .issued

theorem applied_change (s finish : Scheduler) (ticket : Option Ticket) :
    (s.change finish ticket).filterMap PollEvent.applied? = [] := by
  unfold change
  split <;> cases ticket <;> rfl

/-- What an event makes of a scheduler. -/
def after (s : Scheduler) : PollEvent → Scheduler
  | .switched => s.switch !s.running
  | .issued _ => s.issued
  | .answered ticket _ _ => (s.accept ticket).2

def Allows (s : Scheduler) : PollEvent → Prop
  | .switched => True
  | .issued ticket => ∃ reason, ticket = s.nextTicket reason
  | .answered ticket _ counted => counted = s.isFresh ticket

/-- A scheduler goes through the events of a log and ends as another one. -/
inductive Follows : Scheduler → List PollEvent → Scheduler → Prop where
  | nil (s : Scheduler) : Follows s [] s
  | cons {s finish : Scheduler} {event : PollEvent} {log : List PollEvent}
      (allowed : s.Allows event) (rest : Follows (s.after event) log finish) :
      Follows s (event :: log) finish

theorem Follows.append {s middle finish : Scheduler} {first second : List PollEvent}
    (h : Follows s first middle) (next : Follows middle second finish) :
    Follows s (first ++ second) finish := by
  induction h with
  | nil => exact next
  | cons allowed _ ih => exact .cons allowed (ih next)

/-! ### What a scheduler does of itself -/

theorem follows_change_self (s : Scheduler) : s.Follows (s.change s none) s := by
  simp only [change, if_true]
  exact .nil s

theorem follows_issued (s : Scheduler) (reason : PollReason) :
    s.Follows [.issued (s.nextTicket reason)] s.issued :=
  .cons ⟨reason, rfl⟩ (.nil _)

theorem follows_resume (s : Scheduler) : s.Follows (s.change s.resume.2 s.resume.1) s.resume.2 := by
  cases running : s.running with
  | true =>
    simp only [resume, running, if_true]
    exact follows_change_self s
  | false =>
    have started : s.after .switched = s.switch true := by simp [after, running]
    simp only [change, resume, running, switch, issued, Bool.false_eq_true, if_false]
    refine .cons trivial ?_
    rw [started]
    exact follows_issued (s.switch true) .resumed

theorem follows_pause (s : Scheduler) : s.Follows (s.change s.pause none) s.pause := by
  cases running : s.running with
  | true =>
    have stopped : s.after .switched = s.switch false := by simp [after, running]
    simp only [change, pause, running, switch, if_true]
    refine .cons trivial ?_
    rw [stopped]
    exact .nil _
  | false =>
    simp only [pause, running, Bool.false_eq_true, if_false]
    exact follows_change_self s

theorem follows_toggle (s : Scheduler) : s.Follows (s.change s.toggle.2 s.toggle.1) s.toggle.2 := by
  unfold toggle
  split
  · exact follows_pause s
  · exact follows_resume s

theorem follows_change_issued (s : Scheduler) (reason : PollReason) :
    s.Follows (s.change s.issued (some (s.nextTicket reason))) s.issued := by
  simp only [change, issued, if_true]
  exact follows_issued s reason

theorem follows_outOfCycle (s : Scheduler) :
    s.Follows (s.change s.outOfCycle.2 (some s.outOfCycle.1)) s.outOfCycle.2 :=
  follows_change_issued s .outOfCycle

theorem follows_tick (s : Scheduler) : s.Follows (s.change s.tick.2 s.tick.1) s.tick.2 := by
  cases running : s.running with
  | true =>
    have ticked : s.tick = (some (s.nextTicket .scheduled), s.issued) := by simp [tick, running]
    rw [ticked]
    exact follows_change_issued s .scheduled
  | false =>
    simp only [tick, running, Bool.false_eq_true, if_false]
    exact follows_change_self s

end Scheduler

end SessionMonitor
