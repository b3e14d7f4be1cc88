/-! # Devices

What bytes are written to.  A device answers two calls: `Device.write` offers it bytes, of which it
accepts the first ones, possibly none, and `Device.flush` asks it to pass on what it has accepted.
Either call may fail.

A device may interrupt a write call, but not for ever: an interruption uses up some of its patience.

* `Device.offer` makes an interrupted call again.
* `Device.writeAll` offers the bytes that are left until everything is accepted or a call fails.
* `Device.writePieces` writes several pieces in order and stops at the first that fails. -/

namespace LoginLoad

/-- How a write or a flush fails. -/
inductive WriteFault where
  /-- The device reports an error. -/
  | failed (message : String)
  /-- The device accepts nothing and reports no error. -/
  | stalled
  /-- The device brings its task down. -/
  | panicked
deriving DecidableEq, Repr

/-- What comes of one write call. -/
inductive WriteCall where
  | took (n : Nat)
  | interrupted
  | fault (f : WriteFault)
deriving DecidableEq, Repr

/-- The number of bytes that were accepted in a call. -/
def WriteCall.accepted : WriteCall → Nat
  | took n => n
  | interrupted | fault _ => 0

/-- A device that bytes are written to. -/
class Device (δ : Type) where
  /-- All bytes that it has accepted. -/
  accepted : δ → List UInt8
  write : δ → List UInt8 → WriteCall × δ
  flush : δ → Option WriteFault × δ
  /-- How many of the calls that come next it may interrupt in a row. -/
  patience : δ → Nat
  accepted_le {d e : δ} {bytes : List UInt8} {call : WriteCall} :
    write d bytes = (call, e) → call.accepted ≤ bytes.length
  accepted_write {d e : δ} {bytes : List UInt8} {call : WriteCall} :
    write d bytes = (call, e) → accepted e = accepted d ++ bytes.take call.accepted
  accepted_flush {d e : δ} {fault : Option WriteFault} :
    flush d = (fault, e) → accepted e = accepted d
  patience_lt {d e : δ} {bytes : List UInt8} :
    write d bytes = (.interrupted, e) → patience e < patience d

namespace Device

variable {δ : Type} [Device δ]

/-- Offers bytes until a call is not interrupted: the number of bytes accepted, or the fault. -/
def offer (d : δ) (bytes : List UInt8) : Except WriteFault Nat × δ :=
  match _h : write d bytes with
  | (.interrupted, e) => offer e bytes
  | (.fault f, e) => (.error f, e)
  | (.took n, e) => (.ok n, e)
termination_by patience d
decreasing_by exact patience_lt _h

/-- Writes all of the bytes, or as many as the device accepts before a call fails. -/
def writeAll (d : δ) (bytes : List UInt8) : Option WriteFault × δ :=
  if bytes.isEmpty then (none, d)
  else
    match offer d bytes with
    | (.error f, e) => (some f, e)
    | (.ok n, e) => if n = 0 then (some .stalled, e) else writeAll e (bytes.drop n)
termination_by bytes.length
decreasing_by
  have hne : bytes ≠ [] := by simpa using ‹¬bytes.isEmpty = true›
  have hl := List.length_pos_iff.2 hne
  rw [List.length_drop]
  omega

/-- Writes the pieces in order, up to the first that fails. -/
def writePieces (d : δ) : List (List UInt8) → Option WriteFault × δ
  | [] => (none, d)
  | piece :: rest =>
    match writeAll d piece with
    | (none, e) => writePieces e rest
    | (some f, e) => (some f, e)

end Device
end LoginLoad
