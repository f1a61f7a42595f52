import SessionMonitor.Backend.Answer
import SessionMonitor.Text.Percent

/-!
# Operations

What the server can be asked for: the path of each operation, what is sent along, and how the body
of a good answer is read.
-/

namespace SessionMonitor

inductive Operation where
  | processes
  | databases
  | ping
  | kill (ids : List SessionId)
  | execute (query : String) (db : Option String)
  | explain (query : String)
  | recommend (query : String)
  | login (username password : String)
deriving DecidableEq, Repr

inductive Payload where
  | nothing
  | json (value : Json)
  | form (fields : List (String × String))

namespace Payload

def text : Payload → String
  | nothing => ""
  | json value => value.compact
  | form fields => Text.form fields

def contentType? : Payload → Option String
  | nothing => none
  | json _ => some "application/json"
  | form _ => some "application/x-www-form-urlencoded"

def isNothing : Payload → Bool
  | nothing => true
  | _ => false

end Payload

namespace Operation

def path : Operation → String
  | processes => "/processes"
  | databases => "/databases"
  | ping => "/ping"
  | kill _ => "/kill"
  | execute _ _ => "/execute"
  | explain _ => "/explain"
  | recommend _ => "/recommend"
  | login _ _ => "/login"

def payload : Operation → Payload
  | processes => .nothing
  | databases => .nothing
  | ping => .nothing
  | kill ids => .json (KillRequest.json ⟨ids⟩)
  | execute query db => .json (ExecuteRequest.json ⟨query, db⟩)
  | explain query => .json (QueryRequest.json ⟨query⟩)
  | recommend query => .json (QueryRequest.json ⟨query⟩)
  | login username password => .form [("username", username), ("password", password)]

def showsToken : Operation → Bool
  | login _ _ => false
  | _ => true

abbrev Result : Operation → Type
  | processes => Snapshot
  | databases => List String
  | ping => PingResponse
  | kill _ => KillResponse
  | execute _ _ => ExecuteResult
  | explain _ => ExplainResponse
  | recommend _ => RecommendResponse
  | login _ _ => TokenResponse

def read (now : Timestamp) : (operation : Operation) → List UInt8 → Except Failure operation.Result
  | processes, body => Answer.snapshot body now
  | databases, body => Answer.databases body
  | ping, body => Answer.ping body
  | kill _, body => Answer.kill body
  | execute _ _, body => Answer.execute body
  | explain _, body => Answer.explain body
  | recommend _, body => Answer.recommend body
  | login _ _, body => Answer.token body

end Operation

end SessionMonitor
