/-! # Levels

How weighty an event is.  A filter shows the events from a certain level on. -/

namespace LoginLoad

/-- How weighty an event is; the weightiest comes first. -/
inductive LogLevel where
  | error
  | warn
  | info
  | debug
  | trace
deriving DecidableEq, Repr

/-- The place of a level in the order of levels; events of a lower rank weigh more. -/
def LogLevel.rank : LogLevel → Nat
  | error => 1
  | warn => 2
  | info => 3
  | debug => 4
  | trace => 5

/-- The printed name of a level, five columns wide. -/
def LogLevel.label : LogLevel → String
  | error => "ERROR"
  | warn => " WARN"
  | info => " INFO"
  | debug => "DEBUG"
  | trace => "TRACE"

end LoginLoad
