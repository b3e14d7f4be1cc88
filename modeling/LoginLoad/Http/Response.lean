import LoginLoad.Http.Body

/-! # Reading a response

A response as it arrives: perhaps some informational heads, which are skipped, then the final head,
then the body.

* `ResponseState.feed` reads bytes; how they are cut does not matter (`feed_append`).
* A head, with the empty lines before it, has to fit into what a client keeps of unread bytes.
* Once the final head is complete nothing that follows changes it (`head?_feed`): the bytes after it
  only decide how the body fares. -/

namespace LoginLoad
namespace Http

/-- The most bytes that a head may have. -/
def maxHeadBytes : Nat := 417792

/-- How much of a response has been read. -/
inductive ResponseState where
  /-- In a head, of which so many bytes have been read. -/
  | head (s : HeadState) (bytes : Nat)
  /-- In the body; `extra` says whether bytes came after its end. -/
  | body (head : ResponseHead) (s : BodyState) (extra : Bool)
  | failed (fault : HeadFault)
  /-- The connection ended before the head did. -/
  | closed
deriving DecidableEq, Repr

namespace ResponseState

/-- Before a response. -/
def start : ResponseState := head .blank 0

/-- Whether a code is informational, so that another response follows. -/
def isInformational (code : Nat) : Bool := 100 ≤ code && code < 200 && code ≠ 101

/-- The state after the byte number `bytes` of the head. -/
def ofHead (bytes : Nat) : HeadState → ResponseState
  | .complete h =>
    if isInformational h.code then start
    else
      match Framing.ofHead? h with
      | .ok framing => body h (.ofFraming framing) false
      | .error f => failed f
  | .failed f => failed f
  | s => if maxHeadBytes ≤ bytes then failed .tooLarge else head s bytes

/-- Reads one byte. -/
def step (s : ResponseState) (b : UInt8) : ResponseState :=
  match s with
  | head s bytes => ofHead (bytes + 1) (s.step b)
  | body h s extra => body h (s.step b) (extra || s = .complete)
  | failed f => failed f
  | closed => closed

/-- Reads bytes in turn. -/
def feed (s : ResponseState) (bytes : List UInt8) : ResponseState := bytes.foldl step s

theorem feed_append (s : ResponseState) (xs ys : List UInt8) :
    s.feed (xs ++ ys) = (s.feed xs).feed ys := List.foldl_append

/-- The connection ends. -/
def atEnd : ResponseState → ResponseState
  | head .. => closed
  | body h s extra => body h s.atEnd extra
  | failed f => failed f
  | closed => closed

/-- The final head, once it is complete. -/
def head? : ResponseState → Option ResponseHead
  | body h _ _ => some h
  | _ => none

theorem head?_step {s : ResponseState} {h : ResponseHead} (b : UInt8) (hs : s.head? = some h) :
    (s.step b).head? = some h := by
  cases s <;> simp_all [head?, step]

theorem head?_feed {s : ResponseState} {h : ResponseHead} (bytes : List UInt8)
    (hs : s.head? = some h) : (s.feed bytes).head? = some h := by
  induction bytes generalizing s with
  | nil => exact hs
  | cons b rest ih => exact ih (head?_step b hs)

end ResponseState
end Http
end LoginLoad
