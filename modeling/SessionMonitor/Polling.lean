/-!
# Polling

When the session list is asked for, and which answers still count. Each request carries a ticket.
A change between running and stopped begins a new generation, and an answer counts if its ticket
is of the current generation and newer than every ticket that has counted in it.
-/

namespace SessionMonitor

inductive PollReason where
  | scheduled
  | resumed
  /-- The operator wants it, or something has changed. -/
  | outOfCycle
deriving DecidableEq, Repr

structure Ticket where
  generation : UInt64
  seq : UInt64
  reason : PollReason
deriving DecidableEq, Repr

structure Scheduler where
  running : Bool
  /-- The time between two requests, in milliseconds. -/
  interval : Nat
  generation : UInt64
  lastSeq : UInt64
  /-- The newest ticket that has counted in this generation. -/
  lastApplied : Option UInt64
  inFlight : Nat
deriving DecidableEq, Repr

namespace Scheduler

def defaultInterval : Nat := 5000

def ofInterval (interval : Nat) : Scheduler where
  running := false
  interval := interval
  generation := 0
  lastSeq := 0
  lastApplied := none
  inFlight := 0

def nextTicket (s : Scheduler) (reason : PollReason) : Ticket :=
  ⟨s.generation, s.lastSeq + 1, reason⟩

def issued (s : Scheduler) : Scheduler :=
  { s with lastSeq := s.lastSeq + 1, inFlight := s.inFlight + 1 }

/-- Starts or stops, with a new generation. -/
def switch (s : Scheduler) (running : Bool) : Scheduler :=
  { s with running := running, generation := s.generation + 1, lastApplied := none }

/-- Starts polling with a request at once, unless it runs already. -/
def resume (s : Scheduler) : Option Ticket × Scheduler :=
  if s.running then (none, s)
  else
    let s := s.switch true
    (some (s.nextTicket .resumed), s.issued)

def pause (s : Scheduler) : Scheduler :=
  if s.running then s.switch false else s

/-- Stops polling if it runs, and starts it if not. -/
def toggle (s : Scheduler) : Option Ticket × Scheduler :=
  if s.running then (none, s.pause) else s.resume

def tick (s : Scheduler) : Option Ticket × Scheduler :=
  if s.running then (some (s.nextTicket .scheduled), s.issued) else (none, s)

def outOfCycle (s : Scheduler) : Ticket × Scheduler :=
  (s.nextTicket .outOfCycle, s.issued)

def isFresh (s : Scheduler) (t : Ticket) : Bool :=
  t.generation = s.generation && match s.lastApplied with
    | some last => last < t.seq
    | none => true

/-- Takes the answer to a ticket, whether a request succeeded or not, and says if it counts. -/
def accept (s : Scheduler) (t : Ticket) : Bool × Scheduler :=
  let answered := { s with inFlight := s.inFlight - 1 }
  if s.isFresh t then (true, { answered with lastApplied := some t.seq }) else (false, answered)

end Scheduler

end SessionMonitor
