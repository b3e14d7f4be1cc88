import LoginLoad.Http.Response
import LoginLoad.Text.Utf8

/-! # Replies

What a client sees of one exchange with a server: a fault, or the final head of a response and how
its body fared. -/

namespace LoginLoad
namespace Http

/-- Why no connection is made. -/
inductive ConnectFault where
  | unreachable
  | refused
  | unresolved
  /-- The system fails to connect for another reason. -/
  | system (detail : String)
  /-- The connection is made, but it cannot be secured. -/
  | handshake (detail : String)
deriving DecidableEq, Repr

/-- The wording of a fault. -/
def ConnectFault.message : ConnectFault → String
  | unreachable => "tcp connect error: Network is unreachable (os error 101)"
  | refused => "tcp connect error: Connection refused (os error 111)"
  | unresolved =>
    "dns error: failed to lookup address information: Temporary failure in name resolution"
  | system detail => "tcp connect error: " ++ detail
  | handshake detail => detail

/-- Why an exchange brings no response. -/
inductive ExchangeFault where
  | connect (fault : ConnectFault)
  /-- The server ended the connection before the head of a response was complete. -/
  | closed
  | head (fault : HeadFault)
  | timedOut
deriving DecidableEq, Repr

/-- The wording of a fault. -/
def ExchangeFault.message : ExchangeFault → String
  | connect fault => "error trying to connect: " ++ fault.message
  | closed => "connection closed before message completed"
  | head fault => fault.message
  | timedOut => "operation timed out"

/-- How the body of a response fares. -/
inductive Tail where
  | whole
  | broken (fault : BodyFault)
  /-- The body neither ends nor breaks. -/
  | endless
deriving DecidableEq, Repr

/-- What a client sees of an exchange. -/
inductive Reply where
  | fault (fault : ExchangeFault)
  /-- A final head: its code, the location that it names, the milliseconds it took, and the fate of
  its body. -/
  | response (code : UInt16) (location : Option (List Char)) (took : Nat) (tail : Tail)
deriving DecidableEq, Repr

/-- The location that a head names; one that is not UTF-8 counts as none. -/
def ResponseHead.location? (h : ResponseHead) : Option (List Char) :=
  (h.value? "location").bind Utf8.decode?

namespace Reply

/-- The reply that a final head stands for. -/
def ofHead (h : ResponseHead) (took : Nat) (tail : Tail) : Reply :=
  .response (UInt16.ofNat h.code) h.location? took tail

end Reply
end Http
end LoginLoad
