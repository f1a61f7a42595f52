import SessionMonitor.Json.Token
import SessionMonitor.Json.Value

/-!
# Documents before they are read

A draft is a document as the grammar of JSON sees it: fields in the order written, repeated keys
and all. Parts that have no value are kept as `refused`, because a reader that skips them does not
mind. `Draft.value?` reads a draft as one value; typed readers pick fields from it.
-/

namespace SessionMonitor.Json

/-- A document as it is written. A refused part is a number out of range, a string that is no text,
or nested too deeply. -/
inductive Draft where
  | refused
  | null
  | bool (value : Bool)
  | number (value : Number)
  | string (value : String)
  | array (items : List Draft)
  | object (fields : List (String × Draft))

namespace Draft

/-- A container that is still open, with what it holds so far in reverse. -/
inductive Frame where
  | array (items : List Draft)
  | object (fields : List (Option String × Draft)) (key : Option String)

inductive Expectation where
  | value
  | valueOrClose
  | key
  | keyOrClose
  | colon (key : Option String)
  | separator
  | finished (document : Draft)

/-- The state of the reader of tokens: the open containers, innermost first, and what may come. -/
structure Reader where
  frames : List Frame
  expectation : Expectation

def nestingLimit : Nat := 127

namespace Reader

def place (frames : List Frame) (value : Draft) : Reader :=
  match frames with
  | [] => ⟨[], .finished value⟩
  | .array items :: rest => ⟨.array (value :: items) :: rest, .separator⟩
  | .object fields key :: rest => ⟨.object ((key, value) :: fields) key :: rest, .separator⟩

/-- The fields of an object, if all keys are texts. -/
def fields? (fields : List (Option String × Draft)) : Option (List (String × Draft)) :=
  fields.mapM fun field => field.1.map fun key => (key, field.2)

def close? (frames : List Frame) (token : Token) : Option Reader :=
  match frames, token with
  | .array items :: rest, .closeArray =>
    some (place rest (if nestingLimit ≤ rest.length then .refused else .array items.reverse))
  | .object fields _ :: rest, .closeObject =>
    some (place rest (match fields? fields.reverse with
      | some fields => if nestingLimit ≤ rest.length then .refused else .object fields
      | none => .refused))
  | _, _ => none

def open? (frames : List Frame) : Token → Option Reader
  | .openArray => some ⟨.array [] :: frames, .valueOrClose⟩
  | .openObject => some ⟨.object [] none :: frames, .keyOrClose⟩
  | .null => some (place frames .null)
  | .bool b => some (place frames (.bool b))
  | .number (some n) => some (place frames (.number n))
  | .string (some s) => some (place frames (.string s))
  | .number none | .string none => some (place frames .refused)
  | _ => none

def step? (r : Reader) (token : Token) : Option Reader :=
  match r.expectation with
  | .value => open? r.frames token
  | .valueOrClose => match token with
    | .closeArray => close? r.frames token
    | _ => open? r.frames token
  | .key => match token with
    | .string s => some { r with expectation := .colon s }
    | _ => none
  | .keyOrClose => match token with
    | .closeObject => close? r.frames token
    | .string s => some { r with expectation := .colon s }
    | _ => none
  | .colon key => match token, r.frames with
    | .colon, .object fields _ :: rest => some ⟨.object fields key :: rest, .value⟩
    | _, _ => none
  | .separator => match token, r.frames with
    | .comma, .array _ :: _ => some { r with expectation := .value }
    | .comma, .object _ _ :: _ => some { r with expectation := .key }
    | _, _ => close? r.frames token
  | .finished _ => none

end Reader

def ofTokens? (tokens : List Token) : Option Draft := do
  let r ← tokens.foldlM Reader.step? ⟨[], .value⟩
  match r.expectation with
  | .finished document => some document
  | _ => none

def ofBytes? (bytes : List UInt8) : Option Draft := do
  ofTokens? (← tokens? bytes)

mutual

def value? : Draft → Option Json
  | refused => none
  | null => some .null
  | bool b => some (.bool b)
  | number n => some (.number n)
  | string s => some (.string s)
  | array items => (values? items).map .array
  | object fields => (fieldValues? fields).map fun fields => .object (Fields.ofList fields)

def values? : List Draft → Option (List Json)
  | [] => some []
  | item :: rest => do
    let value ← value? item
    return value :: (← values? rest)

def fieldValues? : List (String × Draft) → Option (List (String × Json))
  | [] => some []
  | (key, item) :: rest => do
    let value ← value? item
    return (key, value) :: (← fieldValues? rest)

end

end Draft

mutual

def draft : Json → Draft
  | null => .null
  | bool b => .bool b
  | number n => .number n
  | string s => .string s
  | array items => .array (drafts items)
  | object fields => .object (fieldDrafts fields)

def drafts : List Json → List Draft
  | [] => []
  | value :: rest => value.draft :: drafts rest

def fieldDrafts : List (String × Json) → List (String × Draft)
  | [] => []
  | (key, value) :: rest => (key, value.draft) :: fieldDrafts rest

end

def ofBytes? (bytes : List UInt8) : Option Json := do
  (← Draft.ofBytes? bytes).value?

end SessionMonitor.Json
