import SessionMonitor.Json.Value
import SessionMonitor.Session

/-!
# Refusals

Why the monitor refuses a session list or a request, and how it says so.
-/

namespace SessionMonitor

inductive Column where
  | id
  | user
  | host
  | db
  | command
  | time
  | state
  | info
  | cpu
  | memory
deriving DecidableEq, Repr

def Column.name : Column → String
  | id => "id"
  | user => "user"
  | host => "host"
  | db => "db"
  | command => "command"
  | time => "time"
  | state => "state"
  | info => "info"
  | cpu => "cpu"
  | memory => "memory"

inductive RowFault where
  | notAnObject (kind : String)
  | repeatedColumn (column : Column)
  | missingId
  | invalidId (value : String)
deriving DecidableEq, Repr

namespace RowFault

/-- The fault in words, where it is a fault of the columns. -/
def reason : RowFault → String
  | notAnObject kind => kind ++ ", expected an object"
  | repeatedColumn column => "duplicate field `" ++ column.name ++ "`"
  | missingId => "missing process id"
  | invalidId value => "invalid process id " ++ value

end RowFault

inductive SnapshotFault where
  | invalidJson
  | notAList (kind : String)
  | row (index : Nat) (fault : RowFault)
  | duplicateId (id : SessionId)
  | other (reason : String)
deriving DecidableEq, Repr

namespace SnapshotFault

def reason : SnapshotFault → String
  | invalidJson => "invalid JSON"
  | notAList kind => "expected a list of processes, got " ++ kind
  | row index (.notAnObject kind) =>
    "row " ++ toString index ++ " is " ++ (RowFault.notAnObject kind).reason
  | row index fault => "row " ++ toString index ++ ": " ++ fault.reason
  | duplicateId id => "duplicate process id " ++ id.text
  | other reason => reason

end SnapshotFault

inductive Refusal where
  | malformedSnapshot (fault : SnapshotFault)
  | emptySelection
  | noLiveTargets (requested : Nat)
  | emptyQuery
  | invalidField (field value expected : String)
deriving DecidableEq, Repr

namespace Refusal

def message : Refusal → String
  | malformedSnapshot fault => "Malformed snapshot: " ++ fault.reason
  | emptySelection => "No processes selected"
  | noLiveTargets requested =>
    "None of the " ++ toString requested ++ " selected process(es) are still running"
  | emptyQuery => "Query is empty"
  | invalidField field value expected =>
    "Invalid " ++ field ++ ": " ++ value ++ " (expected " ++ expected ++ ")"

end Refusal

end SessionMonitor
