import SessionMonitor.Backend.Address
import SessionMonitor.Backend.Operation
import SessionMonitor.Backend.Status
import SessionMonitor.Settings

/-!
# The client

Requests to the server and what becomes of the replies. A client does not talk to anyone itself: it
says what is to be sent, and takes what came back.
-/

namespace SessionMonitor

structure HttpRequest where
  address : Address
  /-- Whether something is sent along; otherwise something is only asked for. -/
  posts : Bool
  authorization : Option String
  contentType : Option String
  body : String
deriving DecidableEq, Repr

structure HttpReply where
  status : Nat
  body : List UInt8
deriving DecidableEq, Repr

namespace HttpRequest

def method (r : HttpRequest) : String :=
  if r.posts then "POST" else "GET"

end HttpRequest

namespace HttpReply

/-- The reply with a status and what follows its head. -/
def ofParts (status : Nat) (rest : List UInt8) : HttpReply :=
  ⟨status, if Status.hasNoBody status then [] else rest⟩

/-- Why the server refused: what its body says, or else what its status means. -/
def refusal (r : HttpReply) : String :=
  let words := match (Json.Draft.ofBytes? r.body).bind ErrorBody.ofDraft? with
    | some body => body.text
    | none => ""
  if words ≠ "" then words else (Status.phrase? r.status).getD "error"

end HttpReply

structure Client where
  baseUrl : String
  timeout : UInt64
  token : Option String
deriving DecidableEq, Repr

namespace Client

def ofBaseUrl (address : String) (timeout : UInt64) : Client :=
  ⟨Settings.withoutSlashes address, timeout, none⟩

def ofSettings (s : Settings) : Client :=
  ofBaseUrl s.baseUrl s.requestTimeout

def withToken (c : Client) (token : String) : Client :=
  { c with token := some token }

/-! ### Requests -/

def isHeaderChar (c : Char) : Bool :=
  c = '\t' || (0x20 ≤ c.toNat && c.toNat ≠ 0x7F)

/-- The header that shows a token. Blanks at its end mean nothing and are not sent. -/
def bearer? (token : String) : Option String :=
  if token.toList.all isHeaderChar then
    let header := "Bearer ".toList ++ token.toList
    some (String.ofList (Text.dropTrailing (fun c => c = ' ' || c = '\t') header))
  else none

def url (c : Client) (operation : Operation) : String :=
  c.baseUrl ++ operation.path

/-- The request for an operation, if it can be put in words. -/
def request? (c : Client) (operation : Operation) : Option HttpRequest := do
  let address ← Address.ofText? (c.url operation)
  let authorization ← match if operation.showsToken then c.token else none with
    | some token => (bearer? token).map some
    | none => some none
  return {
    address := address
    posts := !operation.payload.isNothing
    authorization := authorization
    contentType := operation.payload.contentType?
    body := operation.payload.text }

/-! ### Replies -/

def outcome (now : Timestamp) (operation : Operation) (reply : HttpReply) :
    Except Failure operation.Result :=
  if Status.isSuccess reply.status then operation.read now reply.body
  else .error (.rejected reply.status reply.refusal)

/-- The client after an operation: a login gives a new token. -/
def after (c : Client) : (operation : Operation) → Except Failure operation.Result → Client
  | .login _ _, .ok token => c.withToken token.accessToken
  | _, _ => c

end Client

end SessionMonitor
