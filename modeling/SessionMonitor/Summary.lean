import SessionMonitor.Snapshot
import Std.Data.HashMap

/-!
# Summaries

What the dashboard says about a snapshot: how many sessions each user and each command has, which
session waits for a lock, and the load of all of them.
-/

namespace SessionMonitor

/-- How often each key occurs, in the order in which the keys first occur. -/
structure Groups where
  entries : List (String × Nat)
deriving DecidableEq, Repr

namespace Groups

def empty : Groups := ⟨[]⟩

/-- The largest count. A count that has come there stays there. -/
def limit : Nat := UInt64.size - 1

/-- Counts in the making: the entries, and for each key the place of its entry. -/
structure Tally where
  entries : Array (String × Nat)
  places : Std.HashMap String Nat

namespace Tally

def empty : Tally := ⟨#[], ∅⟩

/-- Counts one more of a key. A key without a place gets the next one. -/
def add (t : Tally) (key : String) : Tally :=
  match t.places[key]? with
  | some place =>
    { t with entries := t.entries.modify place fun entry => (entry.1, min (entry.2 + 1) limit) }
  | none =>
    { entries := t.entries.push (key, 1), places := t.places.insert key t.entries.size }

end Tally

def ofSnapshot (s : Snapshot) (key : Session → String) : Groups :=
  ⟨(s.sessions.foldl (fun tally p => tally.add (key p)) Tally.empty).entries.toList⟩

def get? (g : Groups) (key : String) : Option Nat :=
  List.lookup key g.entries

def size (g : Groups) : Nat :=
  g.entries.length

def total (g : Groups) : Nat :=
  g.entries.foldr (fun entry n => entry.2 + n) 0

end Groups

def Snapshot.blocked? (s : Snapshot) : Option Session :=
  s.sessions.find? (·.isBlocked)

structure Summary where
  sessionCount : Nat
  byUser : Groups
  byCommand : Groups
  blocked : Option SessionId
  totalCpu : Float
  totalMemory : Float
deriving DecidableEq

namespace Summary

/-- The sum of numbers, from a negative zero on, which leaves every number as it is. -/
def sum (xs : List Float) : Float :=
  xs.foldl (· + ·) (-0.0)

def initial : Summary where
  sessionCount := 0
  byUser := .empty
  byCommand := .empty
  blocked := none
  totalCpu := 0.0
  totalMemory := 0.0

def ofSnapshot (s : Snapshot) : Summary where
  sessionCount := s.size
  byUser := .ofSnapshot s (·.user)
  byCommand := .ofSnapshot s (·.command)
  blocked := s.blocked?.map (·.id)
  totalCpu := sum (s.sessions.map (·.cpu))
  totalMemory := sum (s.sessions.map (·.memory))

end Summary

end SessionMonitor
