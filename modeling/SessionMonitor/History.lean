import SessionMonitor.Snapshot

/-!
# History

The load of the server over the last snapshots: a sample for each, the oldest dropped first.
-/

namespace SessionMonitor

structure Sample where
  time : Timestamp
  cpu : Float
  memory : Float
deriving DecidableEq

def Sample.ofSnapshot (s : Snapshot) : Sample where
  time := s.capturedAt
  cpu := s.sessions.foldl (fun sum p => sum + p.cpu) 0.0
  memory := s.sessions.foldl (fun sum p => sum + p.memory) 0.0

/-- The latest samples, oldest first, and how many are kept. -/
structure History where
  samples : List Sample
  capacity : Nat
deriving DecidableEq

namespace History

def defaultCapacity : Nat := 10

/-- A history without samples; at least one is kept. -/
def ofCapacity (capacity : Nat) : History :=
  ⟨[], max capacity 1⟩

def latest? (h : History) : Option Sample :=
  h.samples.getLast?

def oldest? (h : History) : Option Sample :=
  h.samples.head?

/-- The sample of a snapshot in this history: time does not go backwards. -/
def sampleOf (h : History) (s : Snapshot) : Sample :=
  let sample := Sample.ofSnapshot s
  match h.latest? with
  | some latest => { sample with time := max sample.time latest.time }
  | none => sample

/-- Appends the sample of a snapshot. The oldest one goes where the history is full. -/
def record (h : History) (s : Snapshot) : History :=
  let kept := if h.capacity ≤ h.samples.length then h.samples.drop 1 else h.samples
  { h with samples := kept ++ [h.sampleOf s] }

def cpuSeries (h : History) : List Float :=
  h.samples.map (·.cpu)

def memorySeries (h : History) : List Float :=
  h.samples.map (·.memory)

end History

end SessionMonitor
