import SessionMonitor.Engine
import SessionMonitor.Failure
import SessionMonitor.Text.Blank
import SessionMonitor.Text.Contains
import SessionMonitor.Toml.Document

/-!
# Settings

Which server is watched and how. Settings come from a TOML document in which every key may be
missing; the command line may replace some of them. No settings leave this module unchecked:
`ofText`, `replaced` and `load` end in `checked`.
-/

namespace SessionMonitor

structure Settings where
  backendUrl : String := "http://localhost:8000"
  /-- Seconds between two requests for the session list. -/
  pollInterval : UInt64 := 5
  historyCapacity : UInt64 := 10
  /-- Seconds after which a request is given up. -/
  requestTimeout : UInt64 := 10
  pruneSelection : Bool := true
  username : Option String := none
deriving DecidableEq, Repr

namespace Settings

structure Replacements where
  backendUrl : Option String := none
  pollInterval : Option UInt64 := none
  username : Option String := none
deriving DecidableEq, Repr

/-! ### Use -/

def schemes : List String := ["http://", "https://"]

def withoutSlashes (address : String) : String :=
  String.ofList (Text.dropTrailing (· = '/') address.toList)

def baseUrl (s : Settings) : String :=
  withoutSlashes (Text.trim s.backendUrl)

def engineOptions (s : Settings) : Engine.Options where
  pollInterval := 1000 * s.pollInterval.toNat
  historyCapacity := s.historyCapacity.toNat
  pruneSelection := s.pruneSelection

/-! ### Checks -/

def fault? (s : Settings) : Option SettingsFault :=
  let address := Text.trim s.backendUrl
  if s.pollInterval = 0 then some (.notPositive "poll_interval_secs")
  else if s.historyCapacity = 0 then some (.notPositive "history_capacity")
  else if s.requestTimeout = 0 then some (.notPositive "request_timeout_secs")
  else if schemes.any (Text.beginsWith address) then none
  else some (.unknownScheme address)

def checked (s : Settings) : Except SettingsFault Settings :=
  match s.fault? with
  | some fault => .error fault
  | none => .ok s

def replaced (s : Settings) (r : Replacements) : Except SettingsFault Settings :=
  checked { s with
    backendUrl := r.backendUrl.getD s.backendUrl
    pollInterval := r.pollInterval.getD s.pollInterval
    username := r.username <|> s.username }

/-! ### Reading -/

/-- The settings after one field of a document. A field of no known name changes nothing; a known
one must have a value of its kind. -/
def withField (s : Settings) : String × Toml.Value → Option Settings
  | ("backend_url", v) => v.string?.map ({ s with backendUrl := · })
  | ("poll_interval_secs", v) => v.word?.map ({ s with pollInterval := · })
  | ("history_capacity", v) => v.word?.map ({ s with historyCapacity := · })
  | ("request_timeout_secs", v) => v.word?.map ({ s with requestTimeout := · })
  | ("prune_selection", v) => v.bool?.map ({ s with pruneSelection := · })
  | ("username", v) => v.string?.map fun name => { s with username := some name }
  | _ => some s

def ofText (text : String) : Except SettingsFault Settings :=
  match (Toml.ofText? text).bind (·.foldlM withField {}) with
  | some s => s.checked
  | none => .error .unreadable

inductive Source where
  | missing
  | contents (bytes : ByteArray)
  | unreadable (words : String)

def notText : String := "stream did not contain valid UTF-8"

/-- Settings from a file. Only a file that was asked for must be there. -/
def load (path : String) (asked : Bool) : Source → Except Failure Settings
  | .missing => if asked then .error (.settings (.missingFile path)) else .ok {}
  | .unreadable words => .error (.files words)
  | .contents bytes => match String.fromUTF8? bytes with
    | some text => (ofText text).mapError fun fault => .settings (.inFile path fault)
    | none => .error (.files notText)

end Settings

end SessionMonitor
