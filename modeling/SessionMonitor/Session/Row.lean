import SessionMonitor.Json.Draft
import SessionMonitor.Snapshot

/-!
# Rows of session lists

Servers spell the columns of a session list in several ways and fill them loosely: numbers come as
texts, texts as numbers, and what is unknown is missing or null. Here a row becomes a session and
a list of rows a snapshot, all of it or nothing.
-/

namespace SessionMonitor

namespace Column

def all : List Column := [id, user, host, db, command, time, state, info, cpu, memory]

/-- The keys under which a row may hold a column. -/
def spellings : Column → List String
  | id => ["id", "Id", "ID"]
  | user => ["user", "User"]
  | host => ["host", "Host"]
  | db => ["db", "Db", "DB"]
  | command => ["command", "Command"]
  | time => ["time", "Time"]
  | state => ["state", "State"]
  | info => ["info", "Info"]
  | cpu => ["cpu", "CPU", "Cpu"]
  | memory => ["memory", "Memory"]

def ofKey? (key : String) : Option Column :=
  all.find? fun column => column.spellings.contains key

end Column

/-- The values that a row gives for the columns. -/
def Row := Column → Option Json

namespace Row

def empty : Row := fun _ => none

def set (row : Row) (column : Column) (value : Json) : Row :=
  fun other => if other = column then some value else row other

/-- The row in the fields of an object. Two spellings of one column are a fault; keys that spell
no column are skipped. -/
def ofFields (row : Row) : Json.Fields → Except RowFault Row
  | [] => .ok row
  | (key, value) :: rest =>
    match Column.ofKey? key with
    | none => ofFields row rest
    | some column =>
      if (row column).isSome then .error (.repeatedColumn column)
      else ofFields (row.set column value) rest

/-! ### Values of columns -/

/-- The id that a value gives: a number, or a text that writes one. -/
def idOf? : Json → Option SessionId
  | .number n => n.word?.map SessionId.mk
  | .string s => (Decimal.trimmedWord? s).map SessionId.mk
  | _ => none

def id (row : Row) : Except RowFault SessionId :=
  match row .id with
  | none | some .null => .error .missingId
  | some value => match idOf? value with
    | some id => .ok id
    | none => .error (.invalidId value.compact)

def textOf? : Json → Option String
  | .null => none
  | .string s => some s
  | value => some value.compact

def text? (row : Row) (column : Column) : Option String :=
  (row column).bind textOf?

/-- The text in a column where nothing is as good as blanks. -/
def inked? (row : Row) (column : Column) : Option String :=
  (row.text? column).filter Text.hasInk

def timeOf : Json → Elapsed
  | .null => .zero
  | .number n => match n.word? with
    | some count => .seconds count
    | none => .text n.text
  | .string s =>
    if Text.hasInk s then
      match Decimal.trimmedWord? s with
      | some count => .seconds count
      | none => .text (Text.trim s)
    else .zero
  | value => .text value.compact

def numberOf? : Json → Option Float
  | .number n => some n.toFloat
  | .string s => Decimal.double? (Text.trimChars s.toList)
  | _ => none

def isMeasure (x : Float) : Bool :=
  x.isFinite && 0.0 ≤ x

/-- The measurement in a column; whatever makes no sense counts as zero. -/
def measure (row : Row) (column : Column) : Float :=
  (((row column).bind numberOf?).filter isMeasure).getD 0.0

def session (row : Row) : Except RowFault Session := do
  let id ← row.id
  return {
    id := id
    user := (row.text? .user).getD ""
    host := (row.text? .host).getD ""
    db := row.inked? .db
    command := (row.text? .command).getD ""
    time := match row .time with
      | some value => timeOf value
      | none => .zero
    state := row.inked? .state
    info := row.inked? .info
    cpu := row.measure .cpu
    memory := row.measure .memory }

def sessionOf : Json → Except RowFault Session
  | .object fields => do (← ofFields empty fields).session
  | value => .error (.notAnObject value.kind)

end Row

namespace Snapshot

/-- The sessions in the rows of a list, from the row numbered `index` on. -/
def sessionsFrom (index : Nat) : List Json → Except SnapshotFault (List Session)
  | [] => .ok []
  | row :: rest =>
    match Row.sessionOf row with
    | .error fault => .error (.row index fault)
    | .ok session => do
      let others ← sessionsFrom (index + 1) rest
      return session :: others

def ofJson (value : Json) (capturedAt : Timestamp) : Except SnapshotFault Snapshot :=
  match value with
  | .array rows => do
    let sessions ← sessionsFrom 0 rows
    ofSessions sessions capturedAt
  | value => .error (.notAList value.kind)

def ofBytes (bytes : List UInt8) (capturedAt : Timestamp) : Except SnapshotFault Snapshot :=
  match Json.ofBytes? bytes with
  | some value => ofJson value capturedAt
  | none => .error .invalidJson

end Snapshot

end SessionMonitor
