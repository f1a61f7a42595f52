import SessionMonitor.Json.Draft

/-!
# Records in documents

How a record is read: from an object by the names of its fields, or from an array by their order.
What the record does not know is skipped unread, a known field may stand only once, and an array
may end early.
-/

namespace SessionMonitor.Json.Draft

def field? (fields : List (String × Draft)) (name : String) : Option (Option Draft) :=
  match fields.filter (·.1 = name) with
  | [] => some none
  | [field] => some (some field.2)
  | _ => none

/-- The values of the named fields of a record, in the order of the names. -/
def slots? (names : List String) : Draft → Option (List (Option Draft))
  | object fields => names.mapM (field? fields)
  | array items =>
    if items.length ≤ names.length then
      some (items.map some ++ List.replicate (names.length - items.length) none)
    else none
  | _ => none

def required {α : Type} (read : Draft → Option α) (slot : Option Draft) : Option α :=
  slot.bind read

def defaulted {α : Type} (default : α) (read : Draft → Option α) : Option Draft → Option α
  | none => some default
  | some d => read d

def text? : Draft → Option String
  | string s => some s
  | _ => none

def optionalText? : Draft → Option (Option String)
  | null => some none
  | string s => some (some s)
  | _ => none

def word? : Draft → Option UInt64
  | number n => n.word?
  | _ => none

def float? : Draft → Option Float
  | number n => some n.toFloat
  | _ => none

def list? {α : Type} (read : Draft → Option α) : Draft → Option (List α)
  | array items => items.mapM read
  | _ => none

def anyFields? : Draft → Option Fields
  | object fields => (fieldValues? fields).map Fields.ofList
  | _ => none

end SessionMonitor.Json.Draft

namespace SessionMonitor.Json

/-- The text of a field that is left out where there is none. -/
def optionalField (name : String) (text : Option String) : Fields :=
  match text with
  | some s => [(name, .string s)]
  | none => []

def ofOption : Option String → Json
  | some s => .string s
  | none => .null

end SessionMonitor.Json
