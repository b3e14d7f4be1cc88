import LoginLoad.Log.Notice
import LoginLoad.Outcome
import LoginLoad.Span

/-! # Events

What a run tells about itself besides its output.  Each event has a level, a target that names the
part of the program it comes from, a message, and fields with their values.

The events of a run are its own, or they are notices about the connections of its requests
(`Event.isOwn`). -/

namespace LoginLoad

/-- What is told about a run. -/
inductive Event where
  | runStarted (url : String) (users requestsPerUser : Nat) (timeout : Option Span)
  | userStarted (rank requests : Nat)
  | bodyDiscarded (code : UInt16) (error : String)
  | responded (rank ite : Nat) (code : UInt16) (elapsed : Int)
  | requestFailed (rank ite : Nat) (fault : RequestFault)
  | userFinished (rank : Nat)
  | runFinished (lines : Nat)
  | connection (notice : Notice)
deriving DecidableEq, Repr

namespace Event

/-- The level of an event. -/
def level : Event → LogLevel
  | runStarted .. | runFinished .. => .info
  | connection notice => notice.level
  | _ => .debug

/-- The target of an event. -/
def target : Event → String
  | runStarted .. | runFinished .. => "stampede::driver"
  | connection notice => notice.target
  | _ => "stampede::worker"

/-- The message of an event. -/
def message : Event → String
  | runStarted .. => "starting load run"
  | userStarted .. => "virtual user started"
  | bodyDiscarded .. => "discarding unread response body"
  | responded .. => "response"
  | requestFailed .. => "request failed"
  | userFinished .. => "virtual user finished"
  | runFinished .. => "load run finished"
  | connection notice => notice.message

/-- The printed form of a time limit. -/
def timeoutText : Option Span → String
  | some t => "Some(" ++ t.text ++ ")"
  | none => "None"

/-- The fields of an event and their values, in the order in which they are printed. -/
def fields : Event → List (String × String)
  | runStarted url users requests timeout =>
    [("url", url), ("users", toString users), ("requests_per_user", toString requests),
     ("timeout", timeoutText timeout)]
  | userStarted rank requests => [("rank", toString rank), ("requests", toString requests)]
  | bodyDiscarded code error => [("code", toString code.toNat), ("error", error)]
  | responded rank ite code elapsed =>
    [("rank", toString rank), ("ite", toString ite), ("code", toString code.toNat),
     ("elapsed_ms", toString elapsed)]
  | requestFailed rank ite fault =>
    [("rank", toString rank), ("ite", toString ite), ("error", fault.message)]
  | userFinished rank => [("rank", toString rank)]
  | runFinished lines => [("lines", toString lines)]
  | connection _ => []

/-- Whether an event is one of the run itself. -/
def isOwn : Event → Bool
  | connection _ => false
  | _ => true

/-- Whether an event is told only where the whole program listens. -/
def isRemote : Event → Bool
  | connection notice => notice.isRemote
  | _ => false

/-- The names that a filter may ask for: the message, the fields, and what a relay adds. -/
def names (e : Event) : List String :=
  let relayed := match e with
    | connection notice => if notice.isRelayed then Notice.relayNames else []
    | _ => []
  "message" :: e.fields.map (·.1) ++ relayed

end Event
end LoginLoad
