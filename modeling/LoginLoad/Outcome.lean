import LoginLoad.Text.Decimal

/-! # Outcomes

What one request of a virtual user came to, and the line that reports it.

* A request ends in a status code or in a fault (`Status`).  A fault is of one of three kinds and
  carries the text of its cause.
* `Outcome.line` is the reported line without its line feed, `user-<rank> -> <status>`.
  `Outcome.pieces` is the same text, line feed included, in the pieces in which it is offered to a
  sink (`flatten_pieces`). -/

namespace LoginLoad

/-- Why a request has no status code. -/
inductive RequestFault where
  | connect (detail : String)
  | timeout (detail : String)
  | request (detail : String)
deriving DecidableEq, Repr

namespace RequestFault

/-- The kind of a fault as it is printed. -/
def kind : RequestFault → String
  | connect _ => "connect"
  | timeout _ => "timeout"
  | request _ => "request"

/-- The text of the cause. -/
def detail : RequestFault → String
  | connect d | timeout d | request d => d

/-- The text of a fault: its kind, a colon and the cause. -/
def message (f : RequestFault) : String := f.kind ++ ": " ++ f.detail

end RequestFault

/-- What a request came to. -/
inductive Status where
  | code (code : UInt16)
  | failed (fault : RequestFault)
deriving DecidableEq, Repr

namespace Status

/-- The status code, if there is one. -/
def code? : Status → Option UInt16
  | code c => some c
  | failed _ => none

/-- The printed form: the bare code, or the fault after `error: `. -/
def message : Status → String
  | code c => toString c.toNat
  | failed f => "error: " ++ f.message

/-- The printed form in pieces. -/
def pieces : Status → List String
  | code c => [toString c.toNat]
  | failed f => ["error: ", f.kind ++ ": ", f.detail]

theorem join_pieces (s : Status) : s.pieces.flatMap String.toList = s.message.toList := by
  cases s <;> simp [pieces, message, RequestFault.message]

end Status

/-- The result of request number `ite` of the user number `rank`, with the readings of the clock
before the request and after it, in milliseconds. -/
structure Outcome where
  rank : Nat
  ite : Nat
  status : Status
  sentAt : Int
  receivedAt : Int
deriving DecidableEq, Repr

namespace Outcome

/-- The reported line, without its line feed. -/
def line (o : Outcome) : String := "user-" ++ toString o.rank ++ " -> " ++ o.status.message

/-- The reported line and its line feed, in the pieces in which a sink is offered them. -/
def pieces (o : Outcome) : List String :=
  ["user-", toString o.rank, " -> "] ++ o.status.pieces ++ ["\n"]

theorem join_pieces (o : Outcome) :
    o.pieces.flatMap String.toList = o.line.toList ++ ['\n'] := by
  simp [pieces, line, Status.join_pieces]

/-- Whole milliseconds between the two readings of the clock. -/
def elapsed (o : Outcome) : Int := o.receivedAt - o.sentAt

/-- Whether no outcome in a list ends before it begins or begins before the one in front of it
ends. -/
def areSequential : List Outcome → Bool
  | [] => true
  | [o] => o.sentAt ≤ o.receivedAt
  | o :: p :: rest =>
    o.sentAt ≤ o.receivedAt && o.receivedAt ≤ p.sentAt && areSequential (p :: rest)

end Outcome
end LoginLoad
