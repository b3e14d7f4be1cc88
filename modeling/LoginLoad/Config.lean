import LoginLoad.Span
import LoginLoad.Spec

/-! # The configuration of a run

How many virtual users a run has, how many requests each of them sends and to where, and how long
a request may take. -/

namespace LoginLoad

/-- The configuration of a run. -/
structure Config where
  users : Nat := Default.users
  requestsPerUser : Nat := Default.requestsPerUser
  /-- The time limit of one request; with `none` a request may take for ever. -/
  timeout : Option Span := some (Span.ofSeconds Default.timeoutSeconds)
  /-- Whether a progress bar is wanted. -/
  progress : Bool := true
  spec : RequestSpec := {}
deriving DecidableEq, Repr

/-- The number of requests of the whole run, held at the largest word. -/
def Config.totalRequests (c : Config) : Nat := min (c.users * c.requestsPerUser) wordMax

end LoginLoad
