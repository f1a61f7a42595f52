import SessionMonitor.Json.Reader

/-!
# Statement messages

The request to run a statement and what came of it.
-/

namespace SessionMonitor

open Json (Draft)

structure ExecuteRequest where
  query : String
  db : Option String
deriving DecidableEq, Repr

inductive ExecuteResult where
  | rows (columns : List String) (data : List Json.Fields)
  | message (text : String)

namespace ExecuteRequest

def json (r : ExecuteRequest) : Json :=
  .object (("query", .string r.query) :: Json.optionalField "db" r.db)

def ofDraft? (d : Draft) : Option ExecuteRequest := do
  let [query, db] ← d.slots? ["query", "db"] | none
  return {
    query := ← Draft.required Draft.text? query
    db := ← Draft.defaulted none Draft.optionalText? db }

end ExecuteRequest

namespace ExecuteResult

def rowCount : ExecuteResult → Nat
  | rows _ data => data.length
  | message _ => 0

def isRows : ExecuteResult → Bool
  | rows _ _ => true
  | message _ => false

def json : ExecuteResult → Json
  | rows columns data =>
    .object [("columns", .array (columns.map .string)), ("data", .array (data.map .object))]
  | message text => .object [("message", .string text)]

def rowsOf? (fields : List (String × Draft)) : Option ExecuteResult := do
  let columns ← Draft.field? fields "columns"
  let data ← Draft.field? fields "data"
  return rows (← Draft.required (Draft.list? Draft.text?) columns)
    (← Draft.required (Draft.list? Draft.anyFields?) data)

def messageOf? (fields : List (String × Draft)) : Option ExecuteResult := do
  let text ← Draft.field? fields "message"
  return message (← Draft.required Draft.text? text)

/-- Rows if the document can be read as such, or else a message. No part of it may be refused, as
both readings see all of it. -/
def ofDraft? (d : Draft) : Option ExecuteResult :=
  match d, d.value? with
  | .object fields, some _ => rowsOf? fields <|> messageOf? fields
  | _, _ => none

end ExecuteResult

end SessionMonitor
