import SessionMonitor.Failure
import SessionMonitor.Session.Row
import SessionMonitor.Wire.Access
import SessionMonitor.Wire.Advice
import SessionMonitor.Wire.Execute
import SessionMonitor.Wire.Kill

/-!
# Answers

The bodies of successful answers, read as what the request asked for.
-/

namespace SessionMonitor.Answer

open Json (Draft)

def read {α : Type} (reader : Draft → Option α) (body : List UInt8) : Except Failure α :=
  match (Draft.ofBytes? body).bind reader with
  | some value => .ok value
  | none => .error .unreadable

/-- Reads a process list that arrives at the time `now`. -/
def snapshot (body : List UInt8) (now : Timestamp) : Except Failure Snapshot :=
  (Snapshot.ofBytes body now).mapError .ofSnapshotFault

def databases (body : List UInt8) : Except Failure (List String) :=
  read (Draft.list? Draft.text?) body

def kill (body : List UInt8) : Except Failure KillResponse :=
  read KillResponse.ofDraft? body

def execute (body : List UInt8) : Except Failure ExecuteResult :=
  read ExecuteResult.ofDraft? body

def explain (body : List UInt8) : Except Failure ExplainResponse :=
  read ExplainResponse.ofDraft? body

def recommend (body : List UInt8) : Except Failure RecommendResponse :=
  read RecommendResponse.ofDraft? body

def ping (body : List UInt8) : Except Failure PingResponse :=
  read PingResponse.ofDraft? body

def token (body : List UInt8) : Except Failure TokenResponse :=
  read TokenResponse.ofDraft? body

end SessionMonitor.Answer
