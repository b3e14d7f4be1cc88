/-! # Errors of a run

What can end a run as a whole.  A request without an answer is no such error: it is reported as an
outcome. -/

namespace LoginLoad

/-- How a task ended that did not end by itself. -/
inductive TaskFault where
  | panicked
  | cancelled
deriving DecidableEq, Repr

/-- The wording of a task fault. -/
def TaskFault.message : TaskFault → String
  | panicked => "task panicked"
  | cancelled => "task was cancelled"

/-- Why a run ended without a report. -/
inductive RunError where
  /-- The client of a user could not be built. -/
  | client (detail : String)
  /-- A task did not end by itself. -/
  | join (fault : TaskFault)
  /-- The reporter stopped while a user still had an outcome for it. -/
  | reporterClosed
  /-- The sink failed. -/
  | io (detail : String)
deriving DecidableEq, Repr

namespace RunError

/-- The text of the error that lies behind this one. -/
def source? : RunError → Option String
  | client detail => some detail
  | join fault => some fault.message
  | reporterClosed => none
  | io detail => some detail

/-- The text of the error. -/
def message : RunError → String
  | client detail => "failed to build http client: " ++ detail
  | join fault => "virtual user task failed: " ++ fault.message
  | reporterClosed => "outcome reporter stopped before all requests finished"
  | io detail => "failed to write outcome: " ++ detail

end RunError
end LoginLoad
