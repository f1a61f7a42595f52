import SessionMonitor.Text.Blank
import SessionMonitor.Text.Contains
import SessionMonitor.Text.Lowercase

/-!
# Sessions

One session of the database server, as a row of its session list.
-/

namespace SessionMonitor

structure SessionId where
  value : UInt64
deriving DecidableEq, Inhabited, Repr

namespace SessionId

instance : LT SessionId := ⟨fun a b => a.value < b.value⟩

instance (a b : SessionId) : Decidable (a < b) :=
  inferInstanceAs (Decidable (a.value < b.value))

def order (a b : SessionId) : Ordering :=
  compare a.value b.value

def text (id : SessionId) : String :=
  toString id.value.toNat

end SessionId

/-- How long a session has been in its state: in seconds, or as the server words it. -/
inductive Elapsed where
  | seconds (count : UInt64)
  | text (words : String)
deriving DecidableEq, Repr

namespace Elapsed

def zero : Elapsed := seconds 0

def seconds? : Elapsed → Option UInt64
  | seconds count => some count
  | text _ => none

def display : Elapsed → String
  | seconds count => toString count.toNat
  | text words => words

end Elapsed

structure Session where
  id : SessionId
  user : String
  host : String
  db : Option String
  command : String
  time : Elapsed
  state : Option String
  info : Option String
  cpu : Float
  memory : Float
deriving DecidableEq

namespace Session

/-- A session of which nothing but its id is known. -/
def blank (id : SessionId) : Session where
  id := id
  user := ""
  host := ""
  db := none
  command := ""
  time := .zero
  state := none
  info := none
  cpu := 0.0
  memory := 0.0

/-- The statement without outer blanks, if anything is left of it. -/
def statement? (p : Session) : Option String :=
  (p.info.map Text.trim).filter fun s => s ≠ ""

/-- Whether the state names `words`, whatever the case of its letters. -/
def stateMentions (p : Session) (words : String) : Bool :=
  match p.state with
  | some state => Text.contains (Text.lowercase state) words
  | none => false

def isWaiting (p : Session) : Bool :=
  p.stateMentions "waiting"

def isBlocked (p : Session) : Bool :=
  p.stateMentions "waiting for lock"

end Session

end SessionMonitor
