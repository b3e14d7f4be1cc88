import LoginLoad.Flight
import LoginLoad.Http.Sight

/-! # Scripted servers

Servers that answer as their scripts say, and the network on the way to them.

* A server numbers the requests that reach it.  A request is answered by the route for its target, or
  else by the reply with its number, or else by the last reply; where there is none the server ends
  the connection.  The parts of a reply are sent ten milliseconds apart.
* `watch` reads the parts as a client does that waits no longer than its limit.
* `World.reply` is one exchange.  A connection on which a response ended in order is used again for
  the same host; the client speaks the version that it has heard on it, and tells a server of the
  older version that the connection is to be kept. -/

namespace LoginLoad

open Http (ConnectFault Reply Request Sight Version)

/-- A reply of a server: the parts in which it is sent, and whether the connection then ends. -/
structure ScriptedReply where
  parts : List (List UInt8) := []
  closes : Bool := true
deriving DecidableEq, Repr

/-- What a server answers. -/
structure Script where
  replies : List ScriptedReply := []
  /-- The replies that are given to certain targets, whatever the number of the request. -/
  routes : List (List Char × ScriptedReply) := []
deriving DecidableEq, Repr

/-- The reply to the request number `n` for a target. -/
def Script.reply (s : Script) (n : Nat) (target : List Char) : ScriptedReply :=
  match s.routes.lookup target with
  | some r => r
  | none => (s.replies[n]? <|> s.replies.getLast?).getD {}

/-! ### Waiting for a reply -/

/-- The milliseconds between two parts of a reply. -/
def partInterval : Nat := 10

/-- Reads parts from the time `now` on, no longer than `limit`. -/
def watch (limit : Option Nat) (now : Nat) (s : Sight) : List (List UInt8) → Sight
  | [] => s
  | part :: rest =>
    if limit.any (· ≤ now) then { s with late := true }
    else watch limit (now + partInterval) (s.see now part) rest

/-! ### The world of a run -/

/-- A request as it reached a server. -/
structure Arrival where
  /-- The place of the server in the list of servers. -/
  server : Nat
  /-- The user that sent it, and for which of its requests. -/
  rank : Nat
  ite : Nat
  /-- The number of redirects that led to it. -/
  followed : Nat
  request : Request
deriving DecidableEq, Repr

/-- A connection that waits for its next use. -/
structure IdleConnection where
  rank : Nat
  host : Host
  port : Nat
  version : Version
deriving DecidableEq, Repr

/-- Whether a connection is one of a user to a host. -/
def IdleConnection.isOf (c : IdleConnection) (rank : Nat) (host : Host) (port : Nat) : Bool :=
  c.rank = rank && c.host = host && c.port = port

/-- The servers, the way to them, and what has happened so far. -/
structure World where
  /-- Why no address can be reached, if that is so. -/
  outage : Option ConnectFault := none
  /-- The servers and the ports at which they listen on this machine. -/
  servers : List (Nat × Script) := []
  /-- The time limit of a request in milliseconds. -/
  limit : Option Nat := none
  arrivals : Array Arrival := #[]
  idle : List IdleConnection := []

namespace World

/-- The older address that a host stands for, as far as it is known without asking. -/
def ipv4? : Host → Option UInt32
  | .name text => if text = "localhost".toList then some 0x7F000001 else none
  | .ipv4 address => some address
  | .ipv6 [0, 0, 0, 0, 0, 0xFFFF, a, b] => some (0x10000 * a.toUInt32 + b.toUInt32)
  | .ipv6 _ => none

/-- Whether a host is this machine. -/
def isHere (host : Host) : Bool :=
  (ipv4? host).any (fun a => a = 0 || a.toNat / 0x1000000 = 127) ||
    host = .ipv6 [0, 0, 0, 0, 0, 0, 0, 0] || host = .ipv6 [0, 0, 0, 0, 0, 0, 0, 1]

/-- Whether the servers listen at a host: at 127.0.0.1, which also 0.0.0.0 leads to. -/
def isServed (host : Host) : Bool := (ipv4? host).any fun a => a = 0 || a = 0x7F000001

/-- The number of the server at a port, from `i` on. -/
def serverAt? (port : Nat) : Nat → List (Nat × Script) → Option (Nat × Script)
  | _, [] => none
  | i, (p, script) :: rest => if p = port then some (i, script) else serverAt? port (i + 1) rest

/-- Opens a connection: the server that it leads to. -/
def connect (w : World) (secure : Bool) (host : Host) (port : Nat) :
    Except ConnectFault (Nat × Script) :=
  match host, isHere host, w.outage with
  | .name _, false, _ => .error .unresolved
  | _, _, some fault => .error fault
  | _, false, none => .error .unreachable
  | _, true, none =>
    match (serverAt? port 0 w.servers).filter fun _ => isServed host with
    | none => .error .refused
    | some found => if secure then .error (.handshake "unexpected EOF") else .ok found

/-- The number of requests that have reached a server. -/
def arrivalCount (w : World) (server : Nat) : Nat :=
  (w.arrivals.toList.filter (·.server = server)).length

/-- The milliseconds that a flight has left. -/
def remaining (w : World) (f : Flight) : Option Nat := w.limit.map (· - f.spent)

/-- The version that a user speaks: the one that it has heard on a connection it uses again. -/
def spokenVersion (w : World) (rank : Nat) (host : Host) (port : Nat) : Version :=
  ((w.idle.find? (·.isOf rank host port)).map (·.version)).getD .http11

/-- The request of an exchange with a host. -/
def spoken (w : World) (rank : Nat) (f : Flight) (host : Host) : Request :=
  f.request.spokenIn (w.spokenVersion rank host f.port)

/-- The reply that a server gives to the next exchange. -/
def scripted (w : World) (server : Nat) (script : Script) (f : Flight) : ScriptedReply :=
  script.reply (w.arrivalCount server) f.url.target

/-- What a client sees of a reply in the time that is left. -/
def sight (w : World) (f : Flight) (reply : ScriptedReply) : Sight :=
  watch (w.remaining f) 0 {} reply.parts

/-- One exchange of a user. -/
def reply (w : World) (rank ite : Nat) (f : Flight) : Option (Reply × World) :=
  match f.url.host? with
  | none => some (.fault (.connect .unresolved), w)
  | some host =>
    match w.connect f.isSecure host f.port with
    | .error fault => some (.fault (.connect fault), w)
    | .ok (server, script) =>
      if w.remaining f = some 0 then some (.fault .timedOut, w)
      else
        let scripted := w.scripted server script f
        let sight := w.sight f scripted
        match sight.reply? (w.remaining f).isSome scripted.closes with
        | none => none
        | some seen =>
          let others := w.idle.filter fun c => !c.isOf rank host f.port
          let idle := match sight.reusable? scripted.closes with
            | some version => ⟨rank, host, f.port, version⟩ :: others
            | none => others
          let arrival := ⟨server, rank, ite, f.followed, w.spoken rank f host⟩
          some (seen, { w with arrivals := w.arrivals.push arrival, idle })

/-- The address of a host with a port; an older address keeps its own form. -/
def addressText (host : Host) (port : Nat) : String :=
  let text := match host, ipv4? host with
    | .ipv6 _, some a => "[::ffff:".toList ++ Ipv4.text a ++ [']']
    | _, some a => Ipv4.text a
    | host, none => host.text
  String.ofList (text ++ ':' :: Decimal.digits port)

/-- What is told about the connection of an exchange. -/
def connectionNotices (w : World) (rank : Nat) (f : Flight) (host : Host) : List Notice :=
  if w.idle.any (·.isOf rank host f.port) then [.reused f.origin]
  else
    let address := addressText host f.port
    let asked := match host with
      | .name text => [.resolved (String.ofList text)]
      | _ => []
    let tried := match w.connect f.isSecure host f.port with
      | .ok _ | .error (.handshake _) => [.opening address, .opened address]
      | .error .unresolved => []
      | .error fault => [.opening address, .failed address fault]
    [.awaited f.origin, .begun f.origin, .described f.origin] ++ asked ++ tried ++
      [.dropped f.origin]

/-- What is told of the response of which a client sees so much. -/
def responseNotices (f : Flight) (sight : Sight) : List Notice :=
  match sight.state.head? with
  | none => []
  | some head => Notice.ofHead head ++ f.redirectNotices (.ofHead head sight.headAt .endless)

/-- What is told of an exchange once there is a connection. -/
def exchangeNotices (w : World) (rank : Nat) (f : Flight) (host : Host) : List Notice :=
  match w.connect f.isSecure host f.port with
  | .error _ => []
  | .ok (server, script) =>
    if w.remaining f = some 0 then []
    else
      .flushed (w.spoken rank f host).bytes.length ::
        responseNotices f (w.sight f (w.scripted server script f))

/-- What is told of an exchange. -/
def notices (w : World) (rank : Nat) (f : Flight) : List Notice :=
  match f.url.host? with
  | none => []
  | some host => w.connectionNotices rank f host ++ w.exchangeNotices rank f host

/-- The service of scripted servers. -/
def service : Service World := { reply, notices }

end World
end LoginLoad
