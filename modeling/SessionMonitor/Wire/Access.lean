import SessionMonitor.Json.Reader

/-!
# Access messages

Whether the server is there, the token it gives for a login, and how it says no.
-/

namespace SessionMonitor

open Json (Draft)

structure PingResponse where
  db : String
deriving DecidableEq, Repr

structure TokenResponse where
  accessToken : String
  tokenType : Option String
deriving DecidableEq, Repr

structure ErrorBody where
  detail : Json

namespace PingResponse

def json (r : PingResponse) : Json :=
  .object [("db", .string r.db)]

def ofDraft? (d : Draft) : Option PingResponse := do
  let [db] ← d.slots? ["db"] | none
  return ⟨← Draft.defaulted "" Draft.text? db⟩

end PingResponse

namespace TokenResponse

def json (r : TokenResponse) : Json :=
  .object (("access_token", .string r.accessToken) :: Json.optionalField "token_type" r.tokenType)

def ofDraft? (d : Draft) : Option TokenResponse := do
  let [token, type] ← d.slots? ["access_token", "token_type"] | none
  return {
    accessToken := ← Draft.required Draft.text? token
    tokenType := ← Draft.defaulted none Draft.optionalText? type }

end TokenResponse

namespace ErrorBody

/-- One item of a list of details: its message, if it has one. -/
def itemText (item : Json) : String :=
  match item with
  | .object fields => match Json.Fields.get? fields "msg" with
    | some (.string s) => s
    | _ => item.compact
  | _ => item.compact

def text (b : ErrorBody) : String :=
  match b.detail with
  | .string s => s
  | .null => ""
  | .array items => String.intercalate "; " (items.map itemText)
  | other => other.compact

def json (b : ErrorBody) : Json :=
  .object [("detail", b.detail)]

def ofDraft? (d : Draft) : Option ErrorBody := do
  let [detail] ← d.slots? ["detail"] | none
  return ⟨← Draft.defaulted .null Draft.value? detail⟩

end ErrorBody

end SessionMonitor
