import SessionMonitor.Backend.Message
import Std.Async.DNS
import Std.Async.TCP
import Std.Async.Timer

/-!
# The network

One connection for each request, over TCP. Connections are not encrypted.
-/

namespace SessionMonitor.Network

open Std.Async Std.Async.TCP Std.Net

def endpoint (address : IPAddr) (port : UInt16) : SocketAddress :=
  match address with
  | .v4 address => .v4 ⟨address, port⟩
  | .v6 address => .v6 ⟨address, port⟩

/-- Receives until the other side has said everything. -/
partial def receive (socket : Socket.Client) (received : ByteArray) : Async ByteArray := do
  match ← socket.recv? 65536 with
  | some more => receive socket (received ++ more)
  | none => return received

/-- Connects to the first of the addresses that can be reached. -/
def connect (port : UInt16) : List IPAddr → Async Socket.Client
  | [] => throw (IO.userError "no address of the server can be reached")
  | address :: rest => do
    try
      let socket ← Socket.Client.mk
      socket.connect (endpoint address port)
      return socket
    catch error => if rest.isEmpty then throw error else connect port rest

def exchange (request : HttpRequest) : Async (Except String HttpReply) := do
  if request.address.secure then return .error "encrypted connections are not supported"
  let port := UInt16.ofNat request.address.port
  let addresses ← DNS.getAddrInfo request.address.host (toString request.address.port)
  let socket ← connect port addresses.toList
  socket.send request.bytes
  let received ← receive socket .empty
  return match HttpReply.ofConnection? received with
    | some reply => .ok reply
    | none => .error "the reply cannot be read"

def longestWait : Nat := Nat.pow 2 62

def send (timeout : UInt64) (request : HttpRequest) : IO (Except String HttpReply) := do
  let wait : Std.Time.Millisecond.Offset := .ofNat (min (1000 * timeout.toNat) longestWait)
  let late : Async (Except String HttpReply) := do
    sleep wait
    return .error "operation timed out"
  try (Async.race (exchange request) late).block
  catch error => return .error (toString error)

end SessionMonitor.Network
