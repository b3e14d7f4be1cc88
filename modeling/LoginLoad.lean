import LoginLoad.Main
import LoginLoad.Solo
import LoginLoad.Outcome.Reader
import LoginLoad.Json.Value
import LoginLoad.CommandLine.Spelling
import LoginLoad.Proofs.Reporting
import LoginLoad.Proofs.Moves
import LoginLoad.Proofs.Run.Steps
import LoginLoad.Proofs.Run.Order
import LoginLoad.Proofs.Run.Verdict
import LoginLoad.Proofs.Run.Termination
import LoginLoad.Proofs.Run.Accounting
import LoginLoad.Proofs.Metering
import LoginLoad.Proofs.Run.Budget
import LoginLoad.Proofs.Run.BackPressure
import LoginLoad.Proofs.Run.FailedReporter
import LoginLoad.Proofs.Run.Abort
import LoginLoad.Proofs.Replies
import LoginLoad.Proofs.Sending
import LoginLoad.Proofs.Encoding
import LoginLoad.Proofs.ReadBack
import LoginLoad.Proofs.Blindness
import LoginLoad.Proofs.LoginBody
import LoginLoad.Proofs.Telling
import LoginLoad.Proofs.Run.Likeness
import LoginLoad.Proofs.Run.Credentials
import LoginLoad.Proofs.Run.Events
import LoginLoad.Proofs.Bookkeeping
import LoginLoad.Proofs.Limits
import LoginLoad.Proofs.Receiving
import LoginLoad.Proofs.Settling
import LoginLoad.Proofs.Run.Sequence
import LoginLoad.Proofs.Run.FirstRequests
import LoginLoad.Proofs.CommandLine
