/-!
# The poll timer

A clock that ticks at regular intervals from when it is started, until it is stopped.
-/

namespace SessionMonitor

/-- The timer: the time between ticks and when the next one is due, in milliseconds. -/
structure Timer where
  period : Nat
  due : Option Nat
deriving DecidableEq, Repr

namespace Timer

/-- By how much a tick may come late without moving those after it. -/
def tolerance : Nat := 5

def ofPeriod (period : Nat) : Timer := ⟨period, none⟩

/-- Starts the timer: the first tick is due after one period. A running timer runs on. -/
def start (t : Timer) (now : Nat) : Timer :=
  match t.due with
  | some _ => t
  | none => { t with due := some (now + t.period) }

def stop (t : Timer) : Timer :=
  { t with due := none }

/-- Whether a tick is due, and the timer after it. A late tick comes once, and the next one a period
later; a punctual one keeps the beat. -/
def wake (t : Timer) (now : Nat) : Bool × Timer :=
  match t.due with
  | none => (false, t)
  | some due =>
    if now < due then (false, t)
    else (true, { t with due := some ((if due + tolerance < now then now else due) + t.period) })

end Timer

end SessionMonitor
