import LoginLoad.Reporter
import LoginLoad.User

/-! # A load run

The users of a run, the channel between them and the reporter, the reporter, and the driver that
waits for all of them.

The driver spawns the users one by one, each with a sender made from its own, and then lets its own
sender go.  After that it joins the users in any order in which they end.  When the first user that
ended in an error is joined, all others are aborted, and the error is kept.  When all users are
joined the driver waits for the reporter, which ends when every sender is gone and the channel is
empty, or when its device fails.  An error of the reporter decides the run; otherwise the error that
was kept does; otherwise the run ends with the number of lines reported.

`Run.step?` is one step of a run, or `none` where the step cannot be taken.  Every order of steps is
a course that the run may take (`Run.course?`, `Run.Reachable`). -/

namespace LoginLoad

/-- Where the reporter stands. -/
inductive Desk (δ : Type) where
  /-- Waiting for an outcome. -/
  | waiting (r : Reporter δ)
  /-- With an outcome that is to be written. -/
  | holding (r : Reporter δ) (o : Outcome)
  /-- At its end, with the fault that ended it if there is one. -/
  | stopped (r : Reporter δ) (fault : Option WriteFault)
deriving DecidableEq, Repr

namespace Desk

variable {δ : Type}

/-- The reporter at the desk. -/
def reporter : Desk δ → Reporter δ
  | waiting r | holding r _ | stopped r _ => r

/-- Whether the reporter is at its end. -/
def isStopped : Desk δ → Bool
  | waiting _ | holding .. => false
  | stopped .. => true

/-- The steps of the desk itself that are left. -/
def work : Desk δ → Nat
  | waiting _ => 1
  | holding .. => 2
  | stopped .. => 0

end Desk

/-- A load run. -/
structure Run (σ δ : Type) where
  /-- The users that were spawned, in order. -/
  users : Array User := #[]
  site : Site σ
  desk : Desk δ
  /-- Whether the driver still has its own sender. -/
  isSpawning : Bool := true
  /-- The users that were joined, in order. -/
  joined : List Nat := []
  /-- The first error of a user that was joined. -/
  firstError : Option RunError := none
  /-- What the run came to: an error, or the number of lines reported. -/
  result : Option (Except RunError Nat) := none

namespace Run

variable {σ δ : Type} (sc : Scenario σ)

/-- The capacity of the channel. -/
def channelCapacity : Nat := 100

/-- The event that opens a run. -/
def openingEvent (c : Config) : Event :=
  .runStarted c.spec.url c.users c.requestsPerUser c.timeout

/-- A run before its first step, with the device that its output goes to. -/
def start (capacity : Nat) (service : σ) (out : δ) : Run σ δ where
  site := { service, channel := { capacity }, events := [openingEvent sc.config] }
  desk := .waiting { sink := out }

/-- The steps of a run. -/
inductive Label where
  /-- The driver spawns the next user. -/
  | spawn
  /-- The driver lets its sender go. -/
  | release
  | user (rank : Nat) (move : Move)
  /-- The abort reaches a user. -/
  | cancel (rank : Nat)
  /-- The reporter takes an outcome. -/
  | take
  /-- The reporter writes the outcome that it holds. -/
  | record
  /-- The reporter ends, every sender being gone and the channel being empty. -/
  | close
  /-- The driver joins a user. -/
  | join (rank : Nat)
  /-- The driver returns. -/
  | conclude
deriving DecidableEq, Repr

/-- The run with another user number `rank`. -/
def withUser (s : Run σ δ) (rank : Nat) (u : User) : Run σ δ :=
  { s with users := s.users.setIfInBounds rank u }

/-- The run with the next user and its sender. -/
def spawned (s : Run σ δ) : Run σ δ :=
  { s with
    users := s.users.push {}
    site := { s.site with channel := s.site.channel.addSender } }

/-- The run with the reporter at its end and the channel closed. -/
def stopped (s : Run σ δ) (r : Reporter δ) (fault : Option WriteFault) : Run σ δ :=
  { s with
    desk := .stopped r fault
    site := { s.site with channel := s.site.channel.close } }

/-- What a run comes to when the reporter ended with `fault`, or without one. -/
def outcome (fault : Option WriteFault) (firstError : Option RunError) (lines : Nat) :
    Except RunError Nat :=
  match fault, firstError with
  | some fault, _ => .error fault.toRunError
  | none, some e => .error e
  | none, none => .ok lines

/-- The event that closes a run, if it came to a report. -/
def closingEvents : Except RunError Nat → List Event
  | .ok lines => [.runFinished lines]
  | .error _ => []

/-- The driver returns. -/
def concluded (s : Run σ δ) (r : Reporter δ) (fault : Option WriteFault) : Run σ δ :=
  let result := outcome fault s.firstError r.lines
  { s with result := some result, site := s.site.tellAll (closingEvents result) }

@[simp] theorem channel_concluded (s : Run σ δ) (r : Reporter δ) (fault : Option WriteFault) :
    (s.concluded r fault).site.channel = s.site.channel := s.site.channel_tellAll _

variable [Device δ]

/-- The reporter writes an outcome; a fault ends it. -/
def recorded (s : Run σ δ) (r : Reporter δ) (o : Outcome) : Run σ δ :=
  match r.record o with
  | (none, r) => { s with desk := .waiting r }
  | (some fault, r) => s.stopped r (some fault)

/-- One step. -/
def step? (s : Run σ δ) : Label → Option (Run σ δ)
  | .spawn =>
    if s.isSpawning && s.users.size < sc.config.users then some s.spawned else none
  | .release =>
    if s.isSpawning && s.users.size = sc.config.users then
      some { s with isSpawning := false, site := s.site.release }
    else none
  | .user rank move => do
    let u ← s.users[rank]?
    let (u, site) ← u.step? sc rank move s.site
    some ({ s with site }.withUser rank u)
  | .cancel rank => do
    let u ← s.users[rank]?
    if s.firstError.isSome && !u.isEnded then
      some ({ s with site := s.site.release }.withUser rank (u.stop (some (.join .cancelled))))
    else none
  | .take =>
    match s.desk with
    | .waiting r =>
      s.site.channel.take?.map fun (o, channel) =>
        { s with site := { s.site with channel }, desk := .holding r o }
    | _ => none
  | .record =>
    match s.desk with
    | .holding r o => some (s.recorded r o)
    | _ => none
  | .close =>
    match s.desk with
    | .waiting r => if s.site.channel.isExhausted then some (s.stopped r none) else none
    | _ => none
  | .join rank => do
    let u ← s.users[rank]?
    match u.phase with
    | .ended error =>
      if s.isSpawning || rank ∈ s.joined then none
      else
        some { s with joined := s.joined ++ [rank], firstError := s.firstError <|> error }
    | _ => none
  | .conclude =>
    match s.desk with
    | .stopped r fault =>
      if !s.isSpawning && s.joined.length = s.users.size && s.result.isNone then
        some (s.concluded r fault)
      else none
    | _ => none

/-- The run after the given steps, if they can be taken one after another. -/
def course? (s : Run σ δ) : List Label → Option (Run σ δ)
  | [] => some s
  | label :: rest => (s.step? sc label).bind fun t => t.course? rest

/-- The runs that some order of steps leads to. -/
inductive Reachable (capacity : Nat) (service : σ) (out : δ) : Run σ δ → Prop where
  | start : Reachable capacity service out (start sc capacity service out)
  | step {s t : Run σ δ} (label : Label) :
    Reachable capacity service out s → s.step? sc label = some t →
      Reachable capacity service out t

/-- The bytes that the device has accepted. -/
def output (s : Run σ δ) : List UInt8 := Device.accepted s.desk.reporter.sink

end Run
end LoginLoad
