import SessionMonitor.Backend.Client
import SessionMonitor.Decimal.Reading

/-!
# Messages

Requests and replies as the bytes of HTTP/1.1, one request to a connection.
-/

namespace SessionMonitor

namespace HttpRequest

def lineEnd : String := "\r\n"

/-- The name of the server in a request; the usual port is left out. -/
def hostText (a : Address) : String :=
  if a.port = (if a.secure then 443 else 80) then a.host else a.host ++ ":" ++ toString a.port

def head (r : HttpRequest) : List String :=
  [r.method ++ " " ++ r.address.target ++ " HTTP/1.1", "host: " ++ hostText r.address,
    "connection: close", "accept: */*"]
    ++ (r.authorization.map ("authorization: " ++ ·)).toList
    ++ (r.contentType.map ("content-type: " ++ ·)).toList
    ++ if r.posts then ["content-length: " ++ toString r.body.utf8ByteSize] else []

def bytes (r : HttpRequest) : ByteArray :=
  (String.join (r.head.map (· ++ lineEnd)) ++ lineEnd ++ r.body).toUTF8

end HttpRequest

namespace HttpReply

def line? : List UInt8 → Option (List UInt8 × List UInt8)
  | 13 :: 10 :: rest => some ([], rest)
  | b :: rest => (line? rest).map fun (line, rest) => (b :: line, rest)
  | [] => none

def chars (bytes : List UInt8) : List Char :=
  bytes.map Char.ofUInt8

/-- Splits off the lines of a head and the empty line after them; `fuel` bounds their number. -/
def lines? : Nat → List UInt8 → Option (List (List Char) × List UInt8)
  | 0, _ => none
  | fuel + 1, bytes => do
    let (line, rest) ← line? bytes
    if line.isEmpty then return ([], rest)
    else
      let (more, rest) ← lines? fuel rest
      return (chars line :: more, rest)

def status? (line : List Char) : Option Nat :=
  if "HTTP/1.".toList.isPrefixOf line then
    Decimal.natural? ((line.drop 9).take 3)
  else none

/-- The value of a header, by its name in lower case. -/
def header? (headers : List (List Char)) (name : String) : Option String :=
  headers.findSome? fun line =>
    let (key, value) := line.span (· ≠ ':')
    if key.map Char.toLower = name.toList then some (String.ofList (Text.trimChars (value.drop 1)))
    else none

/-- The number of hexadecimal digits up to the first character that is none. -/
def sizeOf? (line : List Char) : Option Nat :=
  let digits := line.takeWhile fun c => c.isDigit || ('a' ≤ c.toLower && c.toLower ≤ 'f')
  if digits.isEmpty then none
  else some (digits.foldl (fun n c =>
    16 * n + if c.isDigit then c.toNat - '0'.toNat else c.toLower.toNat - 'a'.toNat + 10) 0)

/-- Puts together a body that comes in chunks; `fuel` bounds their number. -/
def chunks? : Nat → List UInt8 → Option (List UInt8)
  | 0, _ => none
  | fuel + 1, bytes => do
    let (line, rest) ← line? bytes
    let size ← sizeOf? (chars line)
    if size = 0 then return []
    else if rest.length < size + 2 then none
    else return rest.take size ++ (← chunks? fuel (rest.drop (size + 2)))

def body? (headers : List (List Char)) (rest : List UInt8) : Option (List UInt8) :=
  if ((header? headers "transfer-encoding").map String.toLower) = some "chunked" then
    chunks? (rest.length + 1) rest
  else match header? headers "content-length" with
    | some size => do
      let size ← Decimal.natural? size.toList
      if size ≤ rest.length then some (rest.take size) else none
    | none => some rest

/-- Reads a reply from all bytes of a connection. Replies that only announce another are skipped;
`fuel` bounds their number. -/
def ofBytes? : Nat → List UInt8 → Option HttpReply
  | 0, _ => none
  | fuel + 1, bytes => do
    let (head, rest) ← lines? (bytes.length + 1) bytes
    let first :: headers := head | none
    let status ← status? first
    if status < 200 then ofBytes? fuel rest
    else if Status.hasNoBody status then return ofParts status []
    else return ofParts status (← body? headers rest)

def ofConnection? (bytes : ByteArray) : Option HttpReply :=
  ofBytes? (bytes.size + 1) bytes.toList

end HttpReply

end SessionMonitor
