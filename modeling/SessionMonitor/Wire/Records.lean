import SessionMonitor.Json.Reader
import SessionMonitor.View.Sorting

/-!
# Records of the monitor in messages

How ids, times, sessions and sortings are written in JSON, and read back.
-/

namespace SessionMonitor

open Json (Draft)

namespace SessionId

def json (id : SessionId) : Json :=
  .ofNat id.value.toNat

def ofDraft? (d : Draft) : Option SessionId :=
  d.word?.map mk

end SessionId

namespace Elapsed

def json : Elapsed → Json
  | seconds count => .ofNat count.toNat
  | text words => .string words

def ofDraft? : Draft → Option Elapsed
  | .string s => some (text s)
  | d => d.word?.map seconds

end Elapsed

namespace Session

def json (p : Session) : Json :=
  .object [
    ("id", p.id.json),
    ("user", .string p.user),
    ("host", .string p.host),
    ("db", .ofOption p.db),
    ("command", .string p.command),
    ("time", p.time.json),
    ("state", .ofOption p.state),
    ("info", .ofOption p.info),
    ("cpu", .number (.double p.cpu)),
    ("memory", .number (.double p.memory))]

def ofDraft? (d : Draft) : Option Session := do
  let [id, user, host, db, command, time, state, info, cpu, memory] ← d.slots?
    ["id", "user", "host", "db", "command", "time", "state", "info", "cpu", "memory"] | none
  return {
    id := ← Draft.required SessionId.ofDraft? id
    user := ← Draft.required Draft.text? user
    host := ← Draft.required Draft.text? host
    db := ← Draft.defaulted none Draft.optionalText? db
    command := ← Draft.required Draft.text? command
    time := ← Draft.required Elapsed.ofDraft? time
    state := ← Draft.defaulted none Draft.optionalText? state
    info := ← Draft.defaulted none Draft.optionalText? info
    cpu := ← Draft.required Draft.float? cpu
    memory := ← Draft.required Draft.float? memory }

end Session

def Json.Draft.name? : Draft → Option String
  | .string s => some s
  | .object [(name, .null)] => some name
  | _ => none

namespace SortKey

def json (key : SortKey) : Json :=
  .string key.name

def ofDraft? (d : Draft) : Option SortKey :=
  d.name?.bind ofName?

end SortKey

namespace Direction

def json (direction : Direction) : Json :=
  .string direction.name

def ofDraft? (d : Draft) : Option Direction :=
  d.name?.bind ofName?

end Direction

namespace Sorting

def json (s : Sorting) : Json :=
  .object [("key", s.key.json), ("direction", s.direction.json)]

def ofDraft? (d : Draft) : Option Sorting := do
  let [key, direction] ← d.slots? ["key", "direction"] | none
  return {
    key := ← Draft.required SortKey.ofDraft? key
    direction := ← Draft.required Direction.ofDraft? direction }

end Sorting

end SessionMonitor
