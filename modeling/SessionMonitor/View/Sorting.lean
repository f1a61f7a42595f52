import SessionMonitor.Session

/-!
# Sorting

The order in which sessions are shown: by one column, upwards or downwards. Texts compare without
regard to case, and a missing text counts as an empty one.
-/

namespace SessionMonitor

inductive SortKey where
  | id
  | user
  | host
  | db
  | command
  | time
  | state
  | info
deriving DecidableEq, Repr

namespace SortKey

def all : List SortKey := [id, user, host, db, command, time, state, info]

def label : SortKey → String
  | id => "Id"
  | user => "User"
  | host => "Host"
  | db => "Db"
  | command => "Command"
  | time => "Time"
  | state => "State"
  | info => "Info"

def name : SortKey → String
  | id => "id"
  | user => "user"
  | host => "host"
  | db => "db"
  | command => "command"
  | time => "time"
  | state => "state"
  | info => "info"

def ofName? (name : String) : Option SortKey :=
  all.find? (·.name = name)

def ofColumn? : Nat → Option SortKey
  | 0 => none
  | column + 1 => all[column]?

end SortKey

inductive Direction where
  | asc
  | desc
deriving DecidableEq, Repr

namespace Direction

def flipped : Direction → Direction
  | asc => desc
  | desc => asc

def arrow : Direction → String
  | asc => "▲"
  | desc => "▼"

def name : Direction → String
  | asc => "asc"
  | desc => "desc"

def ofName? (name : String) : Option Direction :=
  [asc, desc].find? (·.name = name)

end Direction

structure Sorting where
  key : SortKey
  direction : Direction
deriving DecidableEq, Repr

def compareTexts (a b : String) : Ordering :=
  compare (Text.lowercase a) (Text.lowercase b)

def Elapsed.order : Elapsed → Elapsed → Ordering
  | seconds a, seconds b => compare a b
  | seconds _, text _ => .lt
  | text _, seconds _ => .gt
  | text a, text b => compareTexts a b

namespace SortKey

def order (key : SortKey) (a b : Session) : Ordering :=
  match key with
  | id => a.id.order b.id
  | user => compareTexts a.user b.user
  | host => compareTexts a.host b.host
  | db => compareTexts (a.db.getD "") (b.db.getD "")
  | command => compareTexts a.command b.command
  | time => a.time.order b.time
  | state => compareTexts (a.state.getD "") (b.state.getD "")
  | info => compareTexts (a.info.getD "") (b.info.getD "")

end SortKey

namespace Sorting

def initial : Sorting := ⟨.id, .asc⟩

/-- Sorts by `key`: upwards, or the other way around if it is the key already. -/
def request (s : Sorting) (key : SortKey) : Sorting :=
  if s.key = key then { s with direction := s.direction.flipped } else ⟨key, .asc⟩

def order (s : Sorting) (a b : Session) : Ordering :=
  match s.direction with
  | .asc => s.key.order a b
  | .desc => (s.key.order a b).swap

def allows (s : Sorting) (a b : Session) : Bool :=
  s.order a b != .gt

end Sorting

end SessionMonitor
