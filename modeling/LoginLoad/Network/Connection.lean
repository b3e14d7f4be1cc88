import Std.Async
import LoginLoad.Flight
import LoginLoad.Http.Sight

/-! # Exchanges over the network

One exchange of a login request over TCP.  What is written and how the answer is read is decided by
`Flight` and `Http.Sight`; here the bytes are moved, the clock is watched, and notices are taken of how
the exchange comes by its connection and of what goes over it.

Connections are not secured: an exchange with a secure URL ends in a fault.  A connection on which a
response ended in order is kept for the next exchange of the same user with the same host. -/

namespace LoginLoad
namespace Network

open Std.Async Std.Net
open Http (ConnectFault Reply Sight Version)

/-- An open connection, and the version that was last heard on it. -/
structure Connection where
  host : Host
  port : Nat
  socket : TCP.Socket.Client
  version : Version := .http11

/-- The connections that wait for their next use, each with the user that it belongs to. -/
abbrev Pool := IO.Ref (List (Nat × Connection))

/-- The system's number for an error, and its words. -/
def systemError? (e : IO.Error) : Option (UInt32 × String) :=
  let found (code : UInt32) (details : String) : Option (UInt32 × String) :=
    some (if code < 0x80000000 then code else 0 - code, details.capitalize)
  match e with
  | .alreadyExists _ c d | .interrupted _ c d | .invalidArgument _ c d | .permissionDenied _ c d
  | .resourceExhausted _ c d | .inappropriateType _ c d | .noSuchThing _ c d => found c d
  | .otherError c d | .resourceBusy c d | .resourceVanished c d | .unsupportedOperation c d
  | .hardwareFault c d | .unsatisfiedConstraints c d | .illegalOperation c d
  | .protocolError c d | .timeExpired c d => found c d
  | _ => none

/-- The text of an error of the system. -/
def systemText (e : IO.Error) : String :=
  match systemError? e with
  | some (number, words) => words ++ " (os error " ++ toString number ++ ")"
  | none => toString e

/-- What an error of the system says about a connection. -/
def connectFault (e : IO.Error) : ConnectFault :=
  match systemError? e with
  | some (101, _) => .unreachable
  | some (111, _) => .refused
  | _ => .system (systemText e)

/-- The notices that were taken of an exchange, in order. -/
abbrev Notices := IO.Ref (List Notice)

/-- Takes notice. -/
def Notices.add (told : Notices) (notice : Notice) : BaseIO Unit := told.modify (· ++ [notice])

/-! ### Connecting -/

/-- The addresses of a host; a name without any has none. -/
def addresses (told : Notices) (host : Host) : Async (List IPAddr) :=
  match host with
  | .ipv4 a =>
    match Ipv4.bytes a with
    | [b, c, d, e] => return [.v4 (.ofParts b.toUInt8 c.toUInt8 d.toUInt8 e.toUInt8)]
    | _ => return []
  | .ipv6 [a, b, c, d, e, f, g, h] => return [.v6 (.ofParts a b c d e f g h)]
  | .ipv6 _ => return []
  | .name text => do
    told.add (.resolved (String.ofList text))
    try
      return (← DNS.getAddrInfo (String.ofList text) "80").toList.eraseDups
    catch _ => return []

/-- The address of a port. -/
def socketAddress (port : Nat) : IPAddr → SocketAddress
  | .v4 a => .v4 ⟨a, port.toUInt16⟩
  | .v6 a => .v6 ⟨a, port.toUInt16⟩

/-- The written form of the address of a port. -/
def addressText (port : Nat) : IPAddr → String
  | .v4 a => a.toString ++ ":" ++ toString port
  | .v6 a => "[" ++ a.toString ++ "]:" ++ toString port

/-- Connects to the first address that can be reached. -/
def connectAny (told : Notices) (host : Host) (port : Nat) (fault : ConnectFault) :
    List IPAddr → Async (Except ConnectFault Connection)
  | [] => return .error fault
  | a :: rest => do
    told.add (.opening (addressText port a))
    let socket ← TCP.Socket.Client.mk
    let failure ← try
        socket.connect (socketAddress port a)
        pure none
      catch e => pure (some (connectFault e))
    match failure with
    | none =>
      told.add (.opened (addressText port a))
      return .ok { host, port, socket }
    | some fault =>
      told.add (.failed (addressText port a) fault)
      connectAny told host port fault rest

/-- Opens a connection for a flight. -/
def connect (told : Notices) (f : Flight) (host : Host) :
    Async (Except ConnectFault Connection) := do
  told.add (.awaited f.origin)
  told.add (.begun f.origin)
  told.add (.described f.origin)
  let made ← connectAny told host f.port .unresolved (← addresses told host)
  told.add (.dropped f.origin)
  return made

/-! ### Time limits -/

/-- A timer that runs for some milliseconds. -/
def timer (left : Nat) : Async Sleep := Sleep.mk (.ofNat left)

/-- Waits for a result, but no longer than for the milliseconds left. -/
def within {α : Type} (left : Option Nat) (x : Async α) : Async (Option α) :=
  match left with
  | none => some <$> x
  | some n => Async.race (some <$> x) (do (← timer n).wait; return none)

/-- What comes of waiting for bytes. -/
inductive Arrived where
  | bytes (bytes : ByteArray)
  | ended
  | late

/-- The most bytes that are read at once. -/
def readSize : UInt64 := 65536

/-- What a connection brings next. -/
def Connection.incoming (c : Connection) : Selectable Arrived :=
  .case (c.socket.recvSelector readSize) fun
    | some bytes => return .bytes bytes
    | none => return .ended

/-- Waits for bytes, but no longer than for the milliseconds left. -/
def Connection.next (c : Connection) (left : Option Nat) : Async Arrived := do
  try
    match left with
    | none => Selectable.one #[c.incoming]
    | some n => Selectable.one #[c.incoming, .case (← timer n).selector fun _ => return .late]
  catch _ => return .ended

/-- Whether nothing has come on a connection that waits for its next use, not even its end. -/
def Connection.isQuiet (c : Connection) : Async Bool := do
  try return (← Selectable.tryOne #[c.incoming]).isNone
  catch _ => return false

/-! ### Exchanges -/

/-- Whether enough of a response was seen: a redirect is followed as soon as its head is complete. -/
def isEnough (f : Flight) (s : Sight) : Bool :=
  s.isSettled ||
    match s.state.head?.map fun head => Reply.ofHead head 0 .endless with
    | some (.response code location took _) => (f.redirect? code location took).isSome
    | _ => false

/-- The milliseconds since a reading of the clock. -/
def since (start : Nat) : IO Nat := return (← IO.monoMsNow) - start

/-- Reads until enough was seen, the connection has ended or the limit has run out; the second part
says whether the connection has ended. -/
partial def Connection.read (c : Connection) (f : Flight) (limit : Option Nat) (start : Nat)
    (s : Sight) : Async (Sight × Bool) := do
  if isEnough f s then return (s, false)
  let elapsed ← since start
  if limit.any (· ≤ elapsed) then return ({ s with late := true }, false)
  match ← c.next (limit.map (· - elapsed)) with
  | .late => return ({ s with late := true }, false)
  | .ended => return (s, true)
  | .bytes bytes => c.read f limit start (s.see (← since start) bytes.toList)

/-- Sends the request of a flight on a connection and reads the reply. -/
def Connection.converse (c : Connection) (told : Notices) (pool : Pool) (limit : Option Nat)
    (start rank : Nat) (f : Flight) : Async Reply := do
  let bytes := (f.request.spokenIn c.version).bytes
  try
    c.socket.send ⟨bytes.toArray⟩
  catch _ => return .fault .closed
  told.add (.flushed bytes.length)
  let (s, ended) ← c.read f limit start {}
  if let some head := s.state.head? then
    for notice in Notice.ofHead head ++ f.redirectNotices (.ofHead head s.headAt .endless) do
      told.add notice
  match s.reusable? ended with
  | some version => pool.modify ((rank, { c with version }) :: ·)
  | none => try c.socket.shutdown catch _ => pure ()
  return (s.reply? true ended).getD (.fault .closed)

/-- Takes the connection that a user has kept to a host. -/
def Pool.take? (pool : Pool) (rank : Nat) (host : Host) (port : Nat) :
    BaseIO (Option Connection) :=
  pool.modifyGet fun all =>
    let mine (entry : Nat × Connection) : Bool :=
      entry.1 = rank && entry.2.host = host && entry.2.port = port
    ((all.find? mine).map (·.2), all.filter fun entry => !mine entry)

/-- The connection on which an exchange takes place: one that was kept and is still quiet, or else a
new one. -/
def connection (told : Notices) (pool : Pool) (rank : Nat) (f : Flight) (host : Host) :
    Async (Except ConnectFault Connection) := do
  match ← pool.take? rank host f.port with
  | none => connect told f host
  | some kept =>
    if ← kept.isQuiet then
      told.add (.reused f.origin)
      return .ok kept
    else connect told f host

/-- The reply to a flight. -/
def reply (told : Notices) (pool : Pool) (limit : Option Nat) (rank : Nat) (f : Flight) :
    Async Reply := do
  let start ← IO.monoMsNow
  let limit := limit.map (· - f.spent)
  match f.url.host? with
  | none => return .fault (.connect .unresolved)
  | some host =>
    match ← within limit (connection told pool rank f host) with
    | none => return .fault .timedOut
    | some (.error fault) => return .fault (.connect fault)
    | some (.ok c) =>
      if f.isSecure then return .fault (.connect (.handshake "connections cannot be secured"))
      else c.converse told pool limit start rank f

/-- One exchange of a user: the reply, and the notices that were taken. -/
def exchange (pool : Pool) (limit : Option Nat) (rank : Nat) (f : Flight) :
    Async (Reply × List Notice) := do
  let told ← IO.mkRef []
  let seen ← reply told pool limit rank f
  return (seen, ← told.get)

end Network
end LoginLoad
