import SessionMonitor.Failure
import SessionMonitor.Wire.Execute

/-!
# The statement executor

The statement that the operator types, the database that it runs in, and what came of it.
-/

namespace SessionMonitor

inductive ExecutorOutput where
  | idle
  | running
  | rows (columns : List String) (rows : List (List String))
  | message (words : String)
  | failed (failure : Failure)
deriving DecidableEq, Repr

structure Executor where
  query : String
  databases : List String
  /-- The place of the chosen database, if it is not the one that the server chooses. -/
  target : Option Nat
  output : ExecutorOutput
deriving DecidableEq, Repr

namespace Executor

def initial : Executor := ⟨"", [], none, .idle⟩

def database? (x : Executor) : Option String :=
  x.target.bind fun place => x.databases[place]?

/-- Chooses the next database: the first after none, and none after the last. -/
def cycleDatabase (x : Executor) : Executor :=
  let next := match x.target with
    | none => 0
    | some place => place + 1
  { x with target := if next < x.databases.length then some next else none }

/-- Replaces the databases. The chosen one stays chosen if it is among them. -/
def setDatabases (x : Executor) (databases : List String) : Executor :=
  { x with
    databases := databases
    target := x.database?.bind fun name => databases.findIdx? (· = name) }

def isRunning (x : Executor) : Bool :=
  match x.output with
  | .running => true
  | _ => false

def cells (columns : List String) (row : Json.Fields) : List String :=
  columns.map fun column => match Json.Fields.get? row column with
    | some value => value.cellText
    | none => ""

def outputOf : Except Failure ExecuteResult → ExecutorOutput
  | .ok (.message text) => .message text
  | .ok (.rows columns data) => .rows columns (data.map (cells columns))
  | .error failure => .failed failure

def finish (x : Executor) (result : Except Failure ExecuteResult) : Executor :=
  { x with output := outputOf result }

end Executor

end SessionMonitor
