import SessionMonitor.Text.Contains
import SessionMonitor.Text.Percent

/-!
# Addresses

Where a server is found, read from the address of a resource on it. Whatever cannot stand in the
first line of a request is written as `%` and two digits.
-/

namespace SessionMonitor

structure Address where
  secure : Bool
  host : String
  port : Nat
  /-- The resource on the server: a path and what is asked of it. -/
  target : String
deriving DecidableEq, Repr

namespace Address

/-! ### Characters -/

def isForeign (c : Char) : Bool :=
  c.toNat ≤ 0x20 || 0x7F ≤ c.toNat || c = '"' || c = '<' || c = '>'

def isForeignInPath (c : Char) : Bool :=
  isForeign c || c = '\x60' || c = '\x7b' || c = '\x7d'

def isForeignInQuestion (c : Char) : Bool :=
  isForeign c || c = '\''

/-! ### Paths -/

/-- Splits at each slash, of either direction. -/
def segments (s : List Char) : List (List Char) :=
  s.splitBy fun _ d => !(d = '/' || d = '\\')

def isHere (segment : List Char) : Bool :=
  segment.map Char.toLower ∈ [".".toList, "%2e".toList]

def isAbove (segment : List Char) : Bool :=
  segment.map Char.toLower ∈ ["..".toList, ".%2e".toList, "%2e.".toList, "%2e%2e".toList]

/-- Follows the segments of a path from the root; `done` holds those behind, the last one first. -/
def resolve (done : List (List Char)) : List (List Char) → List (List Char)
  | [] => done.reverse
  | [last] =>
    if isAbove last then ([] :: done.drop 1).reverse
    else if isHere last then ([] :: done).reverse
    else (last :: done).reverse
  | segment :: rest =>
    if isAbove segment then resolve (done.drop 1) rest
    else if isHere segment then resolve done rest
    else resolve (segment :: done) rest

def path (s : List Char) : List Char :=
  let parts := (segments ('/' :: s)).map (·.drop 1)
  (resolve [] (parts.map (Text.percentChars isForeignInPath))).flatMap ('/' :: ·)

/-- The target that a text after the name of the server writes. -/
def targetOf (s : List Char) : String :=
  let s := s.takeWhile (· ≠ '#')
  let (front, question) := s.span (· ≠ '?')
  String.ofList (path (front.drop 1) ++ Text.percentChars isForeignInQuestion question)

/-! ### Servers -/

def isForeignInHost (c : Char) : Bool :=
  c.toNat ≤ 0x20 || c = '\x7f' || c ∈ ['#', '<', '>', '@', '[', '\\', ']', '^', '|', '%']

/-- A port, or the usual one where none is written. -/
def port? (usual : Nat) (s : List Char) : Option Nat :=
  if s.all Char.isDigit then
    let n := s.foldl (fun n c => 10 * n + (c.toNat - '0'.toNat)) 0
    if s.isEmpty then some usual else if n < UInt16.size then some n else none
  else none

def ofRest? (secure : Bool) (s : List Char) : Option Address := do
  let s := s.filter fun c => !(c = '\t' || c = '\n' || c = '\r')
  let (server, rest) := s.span fun c => !(c = '/' || c = '\\' || c = '?' || c = '#')
  let (host, port) := server.span (· ≠ ':')
  let port ← port? (if secure then 443 else 80) (port.drop 1)
  if host.isEmpty || host.any isForeignInHost then none
  else some ⟨secure, String.ofList host, port, targetOf rest⟩

def ofText? (s : String) : Option Address :=
  if Text.beginsWith s "http://" then ofRest? false (s.toList.drop 7)
  else if Text.beginsWith s "https://" then ofRest? true (s.toList.drop 8)
  else none

end Address

end SessionMonitor
