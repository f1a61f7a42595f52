import SessionMonitor.Wire.Records

/-!
# Kill messages

The request to end sessions and the server's report on it.
-/

namespace SessionMonitor

open Json (Draft)

structure KillRequest where
  sessionIds : List SessionId
deriving DecidableEq, Repr

structure KillFailure where
  id : SessionId
  error : String
deriving DecidableEq, Repr

structure KillResponse where
  message : Option String
  status : Option String
  killed : List SessionId
  failed : List KillFailure
deriving DecidableEq, Repr

namespace KillRequest

def json (r : KillRequest) : Json :=
  .object [("process_ids", .array (r.sessionIds.map SessionId.json))]

def ofDraft? (d : Draft) : Option KillRequest := do
  let [ids] ← d.slots? ["process_ids"] | none
  return ⟨← Draft.required (Draft.list? SessionId.ofDraft?) ids⟩

end KillRequest

namespace KillFailure

def json (f : KillFailure) : Json :=
  .object [("id", f.id.json), ("error", .string f.error)]

def ofDraft? (d : Draft) : Option KillFailure := do
  let [id, error] ← d.slots? ["id", "error"] | none
  return {
    id := ← Draft.required SessionId.ofDraft? id
    error := ← Draft.defaulted "" Draft.text? error }

end KillFailure

namespace KillResponse

def empty : KillResponse := ⟨none, none, [], []⟩

def summary (r : KillResponse) : String :=
  match r.message.filter (· ≠ "") with
  | some message => message
  | none => match r.killed.length, r.failed.length with
    | 0, 0 => "Kill request sent"
    | killed, 0 => "Killed " ++ toString killed ++ " process(es)"
    | killed, failed =>
      "Killed " ++ toString killed ++ " process(es), " ++ toString failed ++ " failed"

def json (r : KillResponse) : Json :=
  .object (Json.optionalField "message" r.message ++ Json.optionalField "status" r.status ++
    [("killed", .array (r.killed.map SessionId.json)),
      ("failed", .array (r.failed.map KillFailure.json))])

def ofDraft? (d : Draft) : Option KillResponse := do
  let [message, status, killed, failed] ← d.slots? ["message", "status", "killed", "failed"] | none
  return {
    message := ← Draft.defaulted none Draft.optionalText? message
    status := ← Draft.defaulted none Draft.optionalText? status
    killed := ← Draft.defaulted [] (Draft.list? SessionId.ofDraft?) killed
    failed := ← Draft.defaulted [] (Draft.list? KillFailure.ofDraft?) failed }

end KillResponse

end SessionMonitor
