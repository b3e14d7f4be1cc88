import LoginLoad.Http.Reply
import LoginLoad.Log.Level

/-! # Notices about connections

What is told of an exchange with a server.  It comes by a connection: one that was kept is used again,
or a new one is opened, to one address or to several in turn.  Then the request is written, and the
head of a response is read (`Notice.ofHead`).  How long the request was is told, too. -/

namespace LoginLoad

/-- Where a connection leads. -/
structure Origin where
  isSecure : Bool
  host : String
  /-- The port, unless it is the usual one. -/
  port : Option Nat
deriving DecidableEq, Repr

namespace Origin

/-- The scheme of the URLs of an origin. -/
def scheme (o : Origin) : String := if o.isSecure then "https" else "http"

/-- Host and port. -/
def authority (o : Origin) : String :=
  match o.port with
  | some p => o.host ++ ":" ++ toString p
  | none => o.host

/-- An origin as the key under which its connections are kept. -/
def key (o : Origin) : String := "(\"" ++ o.scheme ++ "\", " ++ o.authority ++ ")"

end Origin

/-- What is told about a connection and what goes over it. -/
inductive Notice where
  /-- A connection that was kept is used again. -/
  | reused (origin : Origin)
  /-- There is none to use again, unless one is given back in time. -/
  | awaited (origin : Origin)
  | begun (origin : Origin)
  | described (origin : Origin)
  | resolved (host : String)
  | opening (address : String)
  | opened (address : String)
  | failed (address : String) (fault : Http.ConnectFault)
  /-- Nothing is waited for any more. -/
  | dropped (origin : Origin)
  /-- A request was written. -/
  | flushed (bytes : Nat)
  /-- The final head of a response was read. -/
  | parsed (headers : Nat)
  /-- How far the body of a response reaches. -/
  | incoming (framing : Http.Framing)
  | redirecting (url target : List Char)
deriving DecidableEq, Repr

namespace Notice

/-- The level of a notice. -/
def level : Notice → LogLevel
  | awaited _ | described _ | failed .. | dropped _ => .trace
  | _ => .debug

/-- The target of a notice. -/
def target : Notice → String
  | reused _ | awaited _ | dropped _ => "hyper::client::pool"
  | begun _ => "reqwest::connect"
  | resolved _ => "hyper::client::connect::dns"
  | described _ | opening _ | opened _ | failed .. => "hyper::client::connect::http"
  | flushed _ | parsed _ => "hyper::proto::h1::io"
  | incoming _ => "hyper::proto::h1::conn"
  | redirecting .. => "reqwest::async_impl::client"

/-- A fault with its number, its kind and its words, as far as the system gives them. -/
def faultText : Http.ConnectFault → String
  | .unreachable =>
    "Os \x7b code: 101, kind: NetworkUnreachable, message: \"Network is unreachable\" \x7d"
  | .refused => "Os \x7b code: 111, kind: ConnectionRefused, message: \"Connection refused\" \x7d"
  | fault => "\"" ++ fault.message ++ "\""

/-- How far a body reaches, in words. -/
def framingText : Http.Framing → String
  | .empty | .length 0 => "empty"
  | .length n => "content-length (" ++ toString n ++ " bytes)"
  | .chunks => "chunked encoding"
  | .untilEnd => "close-delimited"

/-- The message of a notice. -/
def message : Notice → String
  | reused o => "reuse idle connection for " ++ o.key
  | awaited o => "checkout waiting for idle connection: " ++ o.key
  | begun o => "starting new connection: " ++ o.scheme ++ "://" ++ o.authority ++ "/"
  | described o =>
    let port := match o.port with
      | some p => "Some(Port(" ++ toString p ++ "))"
      | none => "None"
    "Http::connect; scheme=Some(\"" ++ o.scheme ++ "\"), host=Some(\"" ++ o.host ++ "\"), port=" ++ port
  | resolved host => "resolving host=\"" ++ host ++ "\""
  | opening address => "connecting to " ++ address
  | opened address => "connected to " ++ address
  | failed address fault =>
    "connect error for " ++ address ++ ": ConnectError(\"tcp connect error\", " ++ faultText fault ++ ")"
  | dropped o => "checkout dropped for " ++ o.key
  | flushed bytes => "flushed " ++ toString bytes ++ " bytes"
  | parsed headers => "parsed " ++ toString headers ++ " headers"
  | incoming framing => "incoming body is " ++ framingText framing
  | redirecting url target =>
    "redirecting '" ++ String.ofList url ++ "' to '" ++ String.ofList target ++ "'"

/-- Whether a notice comes to the log by a relay. -/
def isRelayed : Notice → Bool
  | begun _ | redirecting .. => true
  | _ => false

/-- The names of what a relay adds to a notice. -/
def relayNames : List String := ["log.target", "log.module_path", "log.file", "log.line"]

/-- Whether a notice is told only where the whole program listens: it is relayed, or it comes from
beside the users. -/
def isRemote : Notice → Bool
  | begun _ | resolved _ | redirecting .. => true
  | _ => false

/-- What is told when the final head of a response was read. -/
def ofHead (h : Http.ResponseHead) : List Notice :=
  match Http.Framing.ofHead? h with
  | .ok framing => [parsed h.headers.length, incoming framing]
  | .error _ => []

end Notice
end LoginLoad
