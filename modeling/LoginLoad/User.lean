import LoginLoad.Channel
import LoginLoad.Config
import LoginLoad.Flight
import LoginLoad.Log.Event
import LoginLoad.RunError

/-! # Virtual users

One virtual user sends its requests one after another.  It reads the clock, sends a request, waits
for the answer, reads the clock again and offers the outcome to the channel; only when the channel
has accepted the outcome does the next request begin.  A failed request is an outcome like any
other. A user has a sender of the channel, and lets it go when it comes to its end.

`User.step?` is one move of a user, or `none` where the move is not open to it.  What the users
share with each other is a `Site`, and what stays the same during a run is a `Scenario`. -/

namespace LoginLoad

/-- What is fixed for a run. -/
structure Scenario (σ : Type) where
  config : Config
  service : Service σ
  /-- The readings of the clock, in the order in which it is read. -/
  clock : Nat → Int := fun n => n
  /-- The users whose client cannot be built, and why. -/
  clientFault : Nat → Option String := fun _ => none
  /-- The users that may panic. -/
  mayPanic : Nat → Bool := fun _ => false

/-- What the users of a run share. -/
structure Site (σ : Type) where
  service : σ
  channel : Channel
  /-- The number of readings of the clock. -/
  readings : Nat := 0
  /-- The events that were told, the latest first. -/
  events : List Event := []

/-- Where a user stands. -/
inductive Phase where
  /-- Before its client is built. -/
  | fresh
  /-- Before the request number `ite`. -/
  | ready (ite : Nat)
  /-- Waiting for the answer to a request that was sent at a certain time, or that could not be. -/
  | waiting (ite : Nat) (sentAt : Int) (attempt : Except SendFault Flight)
  /-- Waiting for the channel to accept an outcome. -/
  | offering (outcome : Outcome)
  /-- At its end, with the error that ended it if there is one. -/
  | ended (error : Option RunError)

/-- A virtual user. -/
structure User where
  phase : Phase := .fresh
  /-- The number of requests that it has started. -/
  started : Nat := 0

/-- The moves of a user. -/
inductive Move where
  /-- Builds the client. -/
  | launch
  /-- Starts the next request. -/
  | request
  /-- Sees the reply to an exchange. -/
  | reply
  /-- Offers an outcome to the channel. -/
  | offer
  /-- Ends after the last request. -/
  | finish
  | panic
deriving DecidableEq, Repr

namespace Site

variable {σ : Type} (s : Site σ)

/-- The events that were told, in order. -/
def log : List Event := s.events.reverse

/-- Tells an event. -/
def tell (e : Event) : Site σ := { s with events := e :: s.events }

@[simp] theorem log_tell (e : Event) : (s.tell e).log = s.log ++ [e] := by simp [log, tell]

/-- Tells events in order. -/
def tellAll (es : List Event) : Site σ := es.foldl tell s

/-- Notes one reading of the clock. -/
def tick : Site σ := { s with readings := s.readings + 1 }

/-- Lets a sender of the channel go. -/
def release : Site σ := { s with channel := s.channel.dropSender }

@[simp] theorem channel_tell (e : Event) : (s.tell e).channel = s.channel := rfl

@[simp] theorem channel_tellAll (es : List Event) : (s.tellAll es).channel = s.channel := by
  induction es generalizing s with
  | nil => rfl
  | cons e rest ih => exact ih (s.tell e)

@[simp] theorem service_tellAll (es : List Event) : (s.tellAll es).service = s.service := by
  induction es generalizing s with
  | nil => rfl
  | cons e rest ih => exact ih (s.tell e)

@[simp] theorem readings_tellAll (es : List Event) : (s.tellAll es).readings = s.readings := by
  induction es generalizing s with
  | nil => rfl
  | cons e rest ih => exact ih (s.tell e)

@[simp] theorem log_tellAll (es : List Event) : (s.tellAll es).log = s.log ++ es := by
  induction es generalizing s with
  | nil => simp [tellAll]
  | cons e rest ih =>
    rw [show s.tellAll (e :: rest) = (s.tell e).tellAll rest from rfl, ih]
    simp

end Site

/-- The event of an answer whose body was faulty. -/
def Answer.bodyEvents (a : Answer) : List Event :=
  match a.status, a.bodyFault with
  | .code code, some fault => [.bodyDiscarded code fault.message]
  | _, _ => []

/-- The event of an outcome. -/
def Outcome.event (o : Outcome) : Event :=
  match o.status with
  | .code code => .responded o.rank o.ite code o.elapsed
  | .failed fault => .requestFailed o.rank o.ite fault

namespace User

variable {σ : Type} (sc : Scenario σ)

/-- Whether a user is at its end. -/
def isEnded (u : User) : Bool :=
  match u.phase with
  | .ended _ => true
  | _ => false

/-- Ends a user. -/
def stop (u : User) (error : Option RunError) : User := { u with phase := .ended error }

/-- An answer arrives: the clock is read, the outcome is told and will be offered. -/
def answered (rank ite : Nat) (sentAt : Int) (a : Answer) (u : User) (s : Site σ) :
    User × Site σ :=
  let o : Outcome := ⟨rank, ite, a.status, sentAt, sc.clock s.readings⟩
  ({ u with phase := .offering o }, s.tick.tellAll (a.bodyEvents ++ [o.event]))

/-- One move of the user number `rank`. -/
def step? (rank : Nat) (move : Move) (u : User) (s : Site σ) : Option (User × Site σ) :=
  match move, u.phase with
  | .launch, .fresh =>
    match sc.clientFault rank with
    | some detail => some (u.stop (some (.client detail)), s.release)
    | none =>
      some ({ u with phase := .ready 0 }, s.tell (.userStarted rank sc.config.requestsPerUser))
  | .request, .ready ite =>
    if ite < sc.config.requestsPerUser then
      let attempt := Flight.start sc.config.spec
      some (⟨.waiting ite (sc.clock s.readings) attempt, u.started + 1⟩, s.tick)
    else none
  | .finish, .ready ite =>
    if ite < sc.config.requestsPerUser then none
    else some (u.stop none, (s.tell (.userFinished rank)).release)
  | .reply, .waiting ite sentAt (.error fault) =>
    some (answered sc rank ite sentAt { status := .failed fault.toRequestFault } u s)
  | .reply, .waiting ite sentAt (.ok flight) =>
    match sc.service.reply s.service rank ite flight with
    | none => none
    | some (reply, service) =>
      let told := (sc.service.notices s.service rank flight).map Event.connection
      let s := { s.tellAll told with service }
      match flight.receive reply with
      | .again next => some ({ u with phase := .waiting ite sentAt (.ok next) }, s)
      | .done answer => some (answered sc rank ite sentAt answer u s)
      | .endless => none
  | .offer, .offering o =>
    if !s.channel.isOpen then some (u.stop (some .reporterClosed), s.release)
    else if s.channel.hasRoom then
      some ({ u with phase := .ready (o.ite + 1) }, { s with channel := s.channel.push o })
    else none
  | .panic, _ =>
    if sc.mayPanic rank && !u.isEnded then some (u.stop (some (.join .panicked)), s.release)
    else none
  | _, _ => none

/-- The moves that a user makes of itself, in the order in which they are tried. -/
def moves : List Move := [.launch, .request, .reply, .offer, .finish]

/-- The first move that is open to a user. -/
def next? (rank : Nat) (u : User) (s : Site σ) : Option (User × Site σ) :=
  moves.findSome? fun move => u.step? sc rank move s

/-! ### The work that is left -/

/-- The most moves of one request: starting it, its exchanges, and offering its outcome; and the two
steps with which the reporter takes and writes it. -/
def requestWork : Nat := Flight.maxExchanges + 5

/-- The most moves of a user and of the reporter for it that are left. -/
def work (requests : Nat) (u : User) : Nat :=
  match u.phase with
  | .fresh => requests * requestWork + 2
  | .ready ite => (requests - ite) * requestWork + 1
  | .waiting ite _ (.error _) => (requests - ite - 1) * requestWork + 5
  | .waiting ite _ (.ok f) => (requests - ite - 1) * requestWork + f.exchangesLeft + 5
  | .offering o => (requests - o.ite - 1) * requestWork + 4
  | .ended _ => 0

end User
end LoginLoad
