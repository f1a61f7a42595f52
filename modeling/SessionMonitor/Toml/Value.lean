/-!
# TOML values

Values of a TOML document, and tables that are filled key by key. A table remembers how it came
about, as that decides who may still add to it.
-/

namespace SessionMonitor.Toml

inductive Value where
  | string (text : String)
  | integer (value : Int)
  | float (value : Float)
  | bool (value : Bool)
  /-- A date, a time or both, as written. -/
  | moment (text : String)
  | array (items : List Value)
  | table (fields : List (String × Value))

namespace Value

def string? : Value → Option String
  | string text => some text
  | _ => none

def bool? : Value → Option Bool
  | bool b => some b
  | _ => none

/-- The number of an integer that is not negative; no integer is beyond `2 ^ 63`. -/
def word? : Value → Option UInt64
  | integer n => if 0 ≤ n then some (UInt64.ofNat n.toNat) else none
  | _ => none

end Value

/-- How a table came about. -/
inductive Origin where
  /-- By its own heading. -/
  | heading
  /-- By the heading of a table in it. -/
  | implied
  /-- By a dotted key. -/
  | dotted
deriving DecidableEq, Repr

inductive Node where
  | leaf (value : Value)
  | table (origin : Origin) (fields : List (String × Node))
  /-- An array of tables; the last one is being filled. -/
  | tables (items : List (List (String × Node)))

abbrev Nodes := List (String × Node)

namespace Node

mutual

def value : Node → Value
  | leaf v => v
  | table _ fields => .table (fieldValues fields)
  | tables items => .array (tableValues items)

def fieldValues : List (String × Node) → List (String × Value)
  | [] => []
  | (key, node) :: rest => (key, node.value) :: fieldValues rest

def tableValues : List (List (String × Node)) → List Value
  | [] => []
  | fields :: rest => .table (fieldValues fields) :: tableValues rest

end

end Node

namespace Nodes

def alter (key : String) (f : Option Node → Option Node) : Nodes → Option Nodes
  | [] => (f none).map fun node => [(key, node)]
  | (k, node) :: rest =>
    if k = key then (f (some node)).map fun node => (k, node) :: rest
    else (alter key f rest).map ((k, node) :: ·)

def alterLast (f : Nodes → Option Nodes) : List Nodes → Option (List Nodes)
  | [] => none
  | [fields] => (f fields).map ([·])
  | fields :: rest => (alterLast f rest).map (fields :: ·)

/-- Changes the table at a path, and makes missing tables on the way. Of an array of tables the last
one counts. -/
def alterAt (dotted : Bool) (f : Origin → Nodes → Option Nodes) (origin : Origin) :
    List String → Nodes → Option Nodes
  | [], fields => f origin fields
  | key :: path, fields =>
    alter key (fun
      | none =>
        let fresh := if dotted then Origin.dotted else .implied
        (alterAt dotted f fresh path []).map (.table fresh)
      | some (.leaf _) => none
      | some (.table origin inner) =>
        if dotted && origin = .heading then none
        else (alterAt dotted f origin path inner).map (.table origin)
      | some (.tables items) =>
        (alterLast (alterAt dotted f .heading path) items).map .tables) fields

/-- Sets a key of a table. The key must be new, and dotted keys may only add to tables that are
made by dotted keys. -/
def setKey (path : List String) (key : String) (v : Value) (origin : Origin) (fields : Nodes) :
    Option Nodes :=
  alterAt true (fun origin fields =>
    if (origin = .dotted) = path.isEmpty then none
    else alter key (fun
      | none => some (.leaf v)
      | some _ => none) fields) origin path fields

/-- Opens the table of a heading. It must be new, or implied by headings before. -/
def openTable (path : List String) (key : String) (fields : Nodes) : Option Nodes :=
  alterAt false (fun _ fields => alter key (fun
    | none => some (.table .heading [])
    | some (.table .implied inner) => some (.table .heading inner)
    | some _ => none) fields) .heading path fields

def pushTable (path : List String) (key : String) (fields : Nodes) : Option Nodes :=
  alterAt false (fun _ fields => alter key (fun
    | none => some (.tables [[]])
    | some (.tables items) => some (.tables (items ++ [[]]))
    | some _ => none) fields) .heading path fields

end Nodes

end SessionMonitor.Toml
