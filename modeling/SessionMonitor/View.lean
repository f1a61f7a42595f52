import SessionMonitor.Snapshot
import SessionMonitor.View.Filter
import SessionMonitor.View.Sorting

/-!
# Views

The sessions of a snapshot that pass a filter, in the order of a sorting. Sessions that compare
equal keep their order in the snapshot, in either direction.
-/

namespace SessionMonitor.View

def rows (s : Snapshot) (f : Filter) (sorting : Sorting) : List (Session × Nat) :=
  (s.sessions.zipIdx.filter fun row => f.passes row.1).mergeSort
    fun a b => sorting.allows a.1 b.1

def positions (s : Snapshot) (f : Filter) (sorting : Sorting) : List Nat :=
  (rows s f sorting).map (·.2)

def sessions (s : Snapshot) (f : Filter) (sorting : Sorting) : List Session :=
  (rows s f sorting).map (·.1)

end SessionMonitor.View
