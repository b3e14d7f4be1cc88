import LoginLoad.User

/-! # One user and a receiver

A single user whose outcomes are taken by a receiver.  The receiver takes as many outcomes as it is
asked for and is then gone, which closes the channel; it may also take everything.

* `Solo.step?` is one step of the user or of the receiver; every order of steps is a course that the
  two may take (`Solo.Reachable`).
* `Solo.drive` takes the steps in a fixed order: the two take turns, the user first, and each goes on
  as long as it can, but hands over no more than `turnLength` outcomes in one turn.  So the receiver
  empties the channel, unless it has then taken all that it wants and is gone, before a user that
  waits for room moves again. -/

namespace LoginLoad

/-- A user and a receiver. -/
structure Solo (σ : Type) where
  user : User := {}
  site : Site σ

namespace Solo

variable {σ : Type} (sc : Scenario σ) (rank : Nat) (wanted : Option Nat)

/-- The steps of the two. -/
inductive Label where
  | user (move : Move)
  | take
  | leave
deriving DecidableEq, Repr

/-- A user and a receiver before their first step. -/
def start (capacity : Nat) (service : σ) : Solo σ where
  site := { service, channel := { capacity } }

/-- The outcomes that the receiver has taken, in order. -/
def received (s : Solo σ) : List Outcome := s.site.channel.taken

/-- Whether the receiver has taken all that it wants. -/
def isSated (s : Solo σ) : Bool := wanted.any (· ≤ s.received.length)

/-- One step. -/
def step? (s : Solo σ) : Label → Option (Solo σ)
  | .user move =>
    (s.user.step? sc rank move s.site).map fun (user, site) => { s with user, site }
  | .take =>
    if s.isSated wanted then none
    else
      s.site.channel.take?.map fun (_, channel) =>
        { s with site := { s.site with channel } }
  | .leave =>
    if s.isSated wanted && s.site.channel.isOpen then
      some { s with site := { s.site with channel := s.site.channel.close } }
    else none

/-- The states that some order of steps leads to. -/
inductive Reachable (capacity : Nat) (service : σ) : Solo σ → Prop where
  | start : Reachable capacity service (start capacity service)
  | step {s t : Solo σ} (label : Label) :
    Reachable capacity service s → s.step? sc rank wanted label = some t →
      Reachable capacity service t

/-- Whether a step is one of the receiver. -/
def Label.isReceiving : Label → Bool
  | .user _ => false
  | .take | .leave => true

/-- The steps in the order in which they are tried: those of the one whose turn it is come first. -/
def candidates (receiving : Bool) : List Label :=
  let moves := User.moves.map Label.user
  if receiving then [.leave, .take] ++ moves else moves ++ [.leave, .take]

/-- The first step that can be taken, and the state after it. -/
def next? (receiving : Bool) (s : Solo σ) : Option (Label × Solo σ) :=
  (candidates receiving).findSome? fun label => (s.step? sc rank wanted label).map (label, ·)

/-- Whether an outcome changes hands in a step. -/
def Label.handsOver : Label → Bool
  | .user .offer | .take => true
  | _ => false

/-- The most outcomes that the user or the receiver hands over in one turn. -/
def turnLength : Nat := 128

/-- Whose turn it is. -/
structure Turn where
  receiving : Bool := false
  /-- The number of outcomes that may still be handed over in it. -/
  left : Nat := turnLength

/-- Whose turn it is after a step. -/
def Turn.after (turn : Turn) (label : Label) : Turn :=
  let left := if label.isReceiving = turn.receiving then turn.left else turnLength
  let left := if label.handsOver then left - 1 else left
  if left = 0 then { receiving := !label.isReceiving } else { receiving := label.isReceiving, left }

/-- Takes steps until none can be taken, at most `fuel` of them. -/
def driveFor (turn : Turn) (s : Solo σ) : Nat → Solo σ
  | 0 => s
  | fuel + 1 =>
    match s.next? sc rank wanted turn.receiving with
    | some (label, t) => driveFor (turn.after label) t fuel
    | none => s

/-- Takes steps until none can be taken. -/
def drive (s : Solo σ) : Solo σ :=
  s.driveFor sc rank wanted {}
    (s.user.work sc.config.requestsPerUser + s.site.channel.held + 1)

end Solo
end LoginLoad
