import Std.Time
import LoginLoad.Network.Connection
import LoginLoad.Program

/-! # Load runs over the network

A load run whose replies come from the network.  The run itself is a `Run`: its steps are taken one
by one, and where none can be taken the exchanges of the waiting users are carried on until a reply
arrives.

Outcomes are printed when the reporter writes them, and events when they are told. -/

namespace LoginLoad
namespace Network

open Http (Reply)

/-- The replies that have arrived and were not yet seen, each with the user that it is for and with
the notices that were taken on the way. -/
abbrev Postbox := List (Nat × Reply × List Notice)

namespace Postbox

/-- The reply for a user, and the box without it. -/
def take? (box : Postbox) (rank : Nat) : Option (Reply × Postbox) :=
  (box.lookup rank).map fun (reply, _) => (reply, box.filter (·.1 ≠ rank))

/-- The notices that came with the reply for a user. -/
def notices (box : Postbox) (rank : Nat) : List Notice :=
  ((box.lookup rank).map fun (_, told) => told).getD []

/-- The service of a postbox: an exchange is answered once its reply has arrived. -/
def service : Service Postbox where
  reply box rank _ _ := take? box rank
  notices box rank _ := notices box rank

end Postbox

/-- A run under way. -/
structure Load where
  run : Run Postbox Sink
  /-- The exchanges that were begun and have not ended. -/
  exchanges : List (Nat × Task (Except IO.Error (Reply × List Notice))) := []

/-- What a run over the network needs to know. -/
structure Setting where
  environment : Environment
  config : Config
  pool : Pool

namespace Setting

/-- The scenario at a reading of the clock. -/
def scenario (setting : Setting) (now : Int) : Scenario Postbox :=
  { config := setting.config, service := Postbox.service, clock := fun _ => now }

/-- The scenario at this moment. -/
def present (setting : Setting) : IO (Scenario Postbox) := do
  return setting.scenario (← Std.Time.Timestamp.now).toMillisecondsSinceUnixEpoch.toInt

end Setting

/-- The time of day as log lines show it. -/
def timeText : IO String := do
  let time := Std.Time.DateTime.ofTimestamp (← Std.Time.Timestamp.now) .UTC
  return time.format "uuuu-MM-dd'T'HH:mm:ss.SSSSSS'Z'"

namespace Load

/-- A run whose sink fails from now on. -/
def spoiled (run : Run Postbox Sink) (message : String) : Run Postbox Sink :=
  match run.desk with
  | .holding r o =>
    let sink := { r.sink with plan := { budget := some 0, message } }
    { run with desk := .holding { r with sink } o }
  | _ => run

/-- The users that wait for a reply, and their flights. -/
def waiting (run : Run Postbox Sink) : List (Nat × Flight) :=
  run.users.toList.zipIdx.filterMap fun (user, rank) =>
    match user.phase with
    | .waiting _ _ (.ok flight) => some (rank, flight)
    | _ => none

/-- Prints the events that were told and forgets them. -/
def tell (l : Load) (setting : Setting) : IO Load := do
  let site := l.run.site
  unless site.events.isEmpty do
    (← IO.getStderr).putStr (Program.logText setting.environment (← timeText) site.log)
  return { l with run := { l.run with site := { site with events := [] } } }

/-- Prints an outcome; an error is given back in the system's words. -/
def print (o : Outcome) : IO (Option String) := do
  let out ← IO.getStdout
  try
    out.putStr (o.line ++ "\n")
    out.flush
    return none
  catch e => return some (systemText e)

/-- Begins the exchanges of the users that wait and have none under way. -/
def begin (l : Load) (setting : Setting) : IO Load := do
  let limit := setting.config.timeout.map (·.milliseconds)
  let idle := (waiting l.run).filter fun (rank, _) => !(l.exchanges.map (·.1)).contains rank
  let begun ← idle.mapM fun (rank, flight) => do
    return (rank, ← Std.Async.EAsync.asTask (exchange setting.pool limit rank flight))
  return { l with exchanges := l.exchanges ++ begun }

/-- Waits until an exchange ends and puts its reply into the box. -/
def await (l : Load) : IO Load := do
  let ended := l.exchanges.map fun (rank, task) => task.map fun result =>
    (rank, result.toOption.getD (.fault .closed, []))
  if h : 0 < ended.length then
    let (rank, arrived) ← IO.waitAny ended h
    let service := (rank, arrived) :: l.run.site.service
    return { l with
      run := { l.run with site := { l.run.site with service } }
      exchanges := l.exchanges.filter (·.1 ≠ rank) }
  else return l

/-- Carries a run to its end. -/
partial def finish (l : Load) (setting : Setting) : IO (Except RunError Nat) := do
  let l ← l.tell setting
  if let some result := l.run.result then return result
  let scenario ← setting.present
  match l.run.desk with
  | .holding _ o =>
    let run := match ← print o with
      | none => l.run
      | some message => spoiled l.run message
    finish { l with run := (run.step? scenario .record).getD run } setting
  | _ =>
    match l.run.next? scenario with
    | some run => finish { l with run } setting
    | none => (← (← l.begin setting).await).finish setting

end Load

/-- Runs a configuration. -/
def load (environment : Environment) (config : Config) : IO (Except RunError Nat) := do
  let setting : Setting := { environment, config, pool := ← IO.mkRef [] }
  let run := Run.start (← setting.present) Run.channelCapacity [] ({} : Sink)
  Load.finish { run } setting

end Network
end LoginLoad
