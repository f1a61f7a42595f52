import SessionMonitor.Json.Number

/-!
# JSON values

Values, their compact text, and objects whose keys are in order.
-/

namespace SessionMonitor

/-- A JSON value. The fields of an object are in the order in which they are written. -/
inductive Json where
  | null
  | bool (value : Bool)
  | number (value : Json.Number)
  | string (value : String)
  | array (items : List Json)
  | object (fields : List (String × Json))

namespace Json

abbrev Fields := List (String × Json)

namespace Fields

/-- Sets the value of `key` in fields whose keys increase. -/
def insert (key : String) (value : Json) : Fields → Fields
  | [] => [(key, value)]
  | (k, v) :: rest =>
    if key < k then (key, value) :: (k, v) :: rest
    else if key = k then (key, value) :: rest
    else (k, v) :: insert key value rest

/-- Fields with their keys increasing; of several values for a key the last one stays. -/
def ofList (fields : List (String × Json)) : Fields :=
  fields.foldl (fun done field => insert field.1 field.2 done) []

def get? (fields : Fields) (key : String) : Option Json :=
  List.lookup key fields

end Fields

/-- The word for the kind of a value, with its article. -/
def kind : Json → String
  | null => "null"
  | bool _ => "a boolean"
  | number _ => "a number"
  | string _ => "a string"
  | array _ => "a list"
  | object _ => "an object"

def text? : Json → Option String
  | string s => some s
  | _ => none

def ofNat (n : Nat) : Json :=
  number (.integer n)

/-! ### Compact text -/

def controlDigits (n : Nat) : List Char :=
  let digits := Nat.toDigits 16 n
  List.replicate (4 - digits.length) '0' ++ digits

def escapeChar (c : Char) : List Char :=
  if c = '"' then ['\\', '"']
  else if c = '\\' then ['\\', '\\']
  else if c = '\x08' then ['\\', 'b']
  else if c = '\x0c' then ['\\', 'f']
  else if c = '\n' then ['\\', 'n']
  else if c = '\r' then ['\\', 'r']
  else if c = '\t' then ['\\', 't']
  else if c.toNat < 0x20 then ['\\', 'u'] ++ controlDigits c.toNat
  else [c]

def writeString (s : String) : List Char :=
  ['"'] ++ s.toList.flatMap escapeChar ++ ['"']

mutual

def write : Json → List Char
  | null => "null".toList
  | bool true => "true".toList
  | bool false => "false".toList
  | number n => n.text.toList
  | string s => writeString s
  | array items => ['['] ++ writeItems items ++ [']']
  | object fields => ['\x7b'] ++ writeFields fields ++ ['\x7d']

def writeItems : List Json → List Char
  | [] => []
  | [item] => write item
  | item :: next :: rest => write item ++ [','] ++ writeItems (next :: rest)

def writeFields : List (String × Json) → List Char
  | [] => []
  | [(key, value)] => writeString key ++ [':'] ++ write value
  | (key, value) :: next :: rest =>
    writeString key ++ [':'] ++ write value ++ [','] ++ writeFields (next :: rest)

end

def compact (value : Json) : String :=
  String.ofList value.write

/-- The text of a value as a cell of a table: strings as they are. -/
def cellText : Json → String
  | null => "NULL"
  | string s => s
  | value => value.compact

end Json

end SessionMonitor
