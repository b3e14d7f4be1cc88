import LoginLoad.Http.Reply

/-! # Waiting for a response

What a client has seen of a response at some time, and the reply that this amounts to when nothing
more will be seen.

* `Sight.see` notes bytes that arrive.  The time that is kept is the one at which the final head was
  complete.
* `Sight.reply?` is the reply at the end: the connection has ended, or the limit has run out, or the
  server stays silent for ever. -/

namespace LoginLoad
namespace Http

/-- What a client has seen of a response. -/
structure Sight where
  state : ResponseState := .start
  /-- The milliseconds after which the final head was complete. -/
  headAt : Nat := 0
  /-- Whether the limit ran out while more was still to come. -/
  late : Bool := false
deriving DecidableEq, Repr

/-- The fate of a body that was read so far. -/
def bodyTail (limited : Bool) : BodyState → Tail
  | .complete => .whole
  | .broken fault => .broken fault
  | _ => if limited then .broken .timedOut else .endless

namespace Sight

/-- Bytes arrive at the time `now`. -/
def see (s : Sight) (now : Nat) (bytes : List UInt8) : Sight :=
  let state := s.state.feed bytes
  let headAt := if s.state.head?.isNone && state.head?.isSome then now else s.headAt
  { s with state, headAt }

/-- The reply that was seen at the end, `closes` being whether the connection has ended; with `none`
the client waits for ever. -/
def reply? (limited closes : Bool) (s : Sight) : Option Reply :=
  match if closes && !s.late then s.state.atEnd else s.state with
  | .failed fault => some (.fault (.head fault))
  | .closed => some (.fault .closed)
  | .head .. => if limited then some (.fault .timedOut) else none
  | .body head body _ => some (.ofHead head s.headAt (bodyTail limited body))

/-- Whether nothing that may still arrive can change the reply. -/
def isSettled (s : Sight) : Bool :=
  match s.state with
  | .failed _ | .closed | .body _ .complete _ | .body _ (.broken _) _ => true
  | _ => false

/-- The version that was heard on a connection which can be used again after what was seen on it. -/
def reusable? (closes : Bool) (s : Sight) : Option Version :=
  match s.state with
  | .body head .complete false =>
    let keeps : Bool := (head.values "connection").foldl
      (fun keep value =>
        if keep then !hasEntry "close" value else hasEntry "keep-alive" value)
      (decide (head.version = .http11))
    if keeps && !closes && head.code ≠ 101 then some head.version else none
  | _ => none

end Sight
end Http
end LoginLoad
