import LoginLoad.CommandLine.Message
import LoginLoad.Log.Filter
import LoginLoad.Log.Layout
import LoginLoad.Run.Schedule
import LoginLoad.World

/-! # The program

What the program prints and with which code it exits, given its arguments, its environment, the
stream that it writes outcomes to and the world that its requests meet.

A refusal of the arguments exits with 2, an error of the run with 1; help, version and a finished run
exit with 0.  Events go to the error stream as far as the filter of the environment shows them. -/

namespace LoginLoad

/-- The variables of the environment that the program looks at. -/
structure Environment where
  noColor : Option String := none
  clicolorForce : Option String := none
  logFilter : Option String := none

namespace Environment

/-- Whether colours are ruled out. -/
def refusesColours (e : Environment) : Bool := e.noColor.any (· ≠ "")

/-- Whether the texts of the command line are coloured: only where colours are asked for and not
ruled out. -/
def coloursMessages (e : Environment) : Bool :=
  !e.refusesColours && e.clicolorForce.any (· ≠ "")

/-- Whether log lines are coloured. -/
def coloursLog (e : Environment) : Bool := !e.refusesColours

end Environment

/-- What the program leaves behind. -/
structure Report where
  exitCode : Nat
  /-- The text printed instead of outcomes, if the arguments ask for one. -/
  notice : String := ""
  /-- The bytes of the outcomes that the stream accepted. -/
  outcomes : List UInt8 := []
  errors : String := ""
deriving DecidableEq, Repr

namespace Program

/-- What the arguments ask for: a load run, or a report at once. -/
def order (env : Environment) (arguments : List CommandLine.Argument) : Except Report Config :=
  let colours := env.coloursMessages
  match CommandLine.read arguments with
  | .error .help => .error { exitCode := 0, notice := CommandLine.help.render colours }
  | .error .version => .error { exitCode := 0, notice := CommandLine.versionText }
  | .error (.refused refusal) =>
    .error { exitCode := 2, errors := refusal.message.render colours }
  | .ok settings => .ok settings.config

/-- The text with which an error of the run is reported. -/
def errorReport (e : RunError) : String :=
  let cause := match e.source? with
    | some source => "\n\nCaused by:\n    " ++ source
    | none => ""
  "Error: " ++ e.message ++ cause ++ "\n"

/-- The exit code of a run and the text about its error. -/
def verdict : Except RunError Nat → Nat × String
  | .ok _ => (0, "")
  | .error e => (1, errorReport e)

/-- The lines of the events that the environment's filter shows. -/
def logText (env : Environment) (time : String) (log : List Event) : String :=
  let filter := LogFilter.ofEnvironment env.logFilter
  String.join ((log.filter filter.shows).map fun e =>
    LogLayout.line env.coloursLog time e ++ "\n")

/-- Runs the program in a world of scripted servers. -/
def run (env : Environment) (time : String) (clock : Nat → Int) (plan : SinkPlan) (world : World)
    (arguments : List CommandLine.Argument) : Report × World :=
  match order env arguments with
  | .error report => (report, world)
  | .ok config =>
    let world := { world with limit := config.timeout.map (·.milliseconds) }
    let last := Run.complete { config, service := World.service, clock } world plan
    let log := logText env time last.site.log
    let (exitCode, text) := verdict (last.result.getD (.ok 0))
    ({ exitCode, outcomes := last.output, errors := log ++ text }, last.site.service)

end Program
end LoginLoad
