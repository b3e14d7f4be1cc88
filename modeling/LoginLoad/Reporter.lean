import LoginLoad.Outcome
import LoginLoad.RunError
import LoginLoad.Sink
import LoginLoad.Text.Utf8

/-! # The reporter

The reporter is the only writer of a run's output.  For each outcome it writes one line to its
device, flushes the device and counts the line; where the write or the flush fails the line is not
counted. -/

namespace LoginLoad

/-- The text of a write fault as the fault of an output stream; a panic has none. -/
def WriteFault.message? : WriteFault → Option String
  | .failed message => some message
  | .stalled => some "failed to write whole buffer"
  | .panicked => none

/-- The error with which a fault of the reporter's device ends the run. -/
def WriteFault.toRunError (f : WriteFault) : RunError :=
  match f.message? with
  | some message => .io message
  | none => .join .panicked

/-- A device and the number of lines reported on it. -/
structure Reporter (δ : Type := Sink) where
  sink : δ
  lines : Nat := 0
deriving DecidableEq, Repr

namespace Reporter

variable {δ : Type} [Device δ]

/-- The bytes of an outcome's line in the pieces in which the device is offered them. -/
def piecesOf (o : Outcome) : List (List UInt8) := o.pieces.map fun p => Utf8.encode p.toList

/-- The bytes of an outcome's line, line feed included. -/
def lineOf (o : Outcome) : List UInt8 := Utf8.encode (o.line ++ "\n").toList

theorem flatten_piecesOf (o : Outcome) : (piecesOf o).flatten = lineOf o := by
  have h := congrArg Utf8.encode o.join_pieces
  simp only [lineOf, piecesOf, String.toList_append]
  rw [show "\n".toList = ['\n'] from rfl, ← h]
  induction o.pieces with
  | nil => rfl
  | cons p rest ih => simp [ih]

/-- Reports one outcome. -/
def record (r : Reporter δ) (o : Outcome) : Option WriteFault × Reporter δ :=
  match Device.writePieces r.sink (piecesOf o) with
  | (some f, s) => (some f, { r with sink := s })
  | (none, s) =>
    match Device.flush s with
    | (some f, s) => (some f, { r with sink := s })
    | (none, s) => (none, ⟨s, r.lines + 1⟩)

/-- Reports outcomes in order, up to the first that fails. -/
def drain (r : Reporter δ) : List Outcome → Option WriteFault × Reporter δ
  | [] => (none, r)
  | o :: rest =>
    match r.record o with
    | (none, r) => r.drain rest
    | (some f, r) => (some f, r)

/-- What may happen to a reporter with a sink: an outcome is reported, or the sink gets another
plan. -/
inductive Call where
  | record (o : Outcome)
  | replan (plan : SinkPlan)
deriving DecidableEq, Repr

/-- One call. -/
def call (r : Reporter) : Call → Option WriteFault × Reporter
  | .record o => r.record o
  | .replan plan => (none, { r with sink := r.sink.replan plan })

end Reporter
end LoginLoad
