import LoginLoad.Run.State

/-! # One course of a run

A run may take its steps in many orders.  `Run.drive` takes them in one of them: the driver spawns
all users, an abort reaches the users at once, then the users move in the order of their numbers,
then the reporter, then the driver.  The number of steps is bounded by `Run.work`, which every step
lessens. -/

namespace LoginLoad
namespace Run

variable {σ δ : Type} (sc : Scenario σ)

/-- The sum of a number of each user. -/
def total (f : User → Nat) (s : Run σ δ) : Nat := s.users.toList.foldr (fun u n => f u + n) 0

/-- The steps that are left at most: those of the driver for the users that are to be spawned and
those of these users, and those of the users that are there, of the reporter and of the driver. -/
def work (s : Run σ δ) : Nat :=
  (sc.config.users - s.users.size) * (User.work sc.config.requestsPerUser {} + 2) +
    s.isSpawning.toNat + s.total (User.work sc.config.requestsPerUser) +
    2 * s.site.channel.held + s.desk.work + (s.users.size - s.joined.length) +
    s.result.isNone.toNat

variable [Device δ]

/-- The first move that is open to a user from the number `rank` on. -/
def userMove? (s : Run σ δ) : List Nat → Option (Run σ δ)
  | [] => none
  | rank :: rest =>
    match User.moves.findSome? fun move => s.step? sc (.user rank move) with
    | some t => some t
    | none => userMove? s rest

/-- The state after the first step that can be taken. -/
def next? (s : Run σ δ) : Option (Run σ δ) :=
  let ranks := List.range s.users.size
  [.spawn, .release].findSome? (s.step? sc)
    <|> (if s.firstError.isSome then ranks.findSome? fun rank => s.step? sc (.cancel rank)
      else none)
    <|> s.userMove? sc ranks
    <|> [.take, .record, .close].findSome? (s.step? sc)
    <|> ranks.findSome? (fun rank => s.step? sc (.join rank))
    <|> s.step? sc .conclude

/-- Takes steps until none can be taken, at most `fuel` of them. -/
def driveFor (s : Run σ δ) : Nat → Run σ δ
  | 0 => s
  | fuel + 1 =>
    match s.next? sc with
    | some t => driveFor t fuel
    | none => s

/-- Takes steps until none can be taken. -/
def drive (s : Run σ δ) : Run σ δ := s.driveFor sc (s.work sc)

/-- A whole run with a sink of the given plan. -/
def complete (service : σ) (plan : SinkPlan) : Run σ Sink :=
  (start sc channelCapacity service ({ plan } : Sink)).drive sc

end Run
end LoginLoad
