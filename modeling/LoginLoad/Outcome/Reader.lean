import LoginLoad.Outcome
import LoginLoad.Text.After
import LoginLoad.Text.Utf8

/-! # Reading reported lines

The reading of what a run has printed.  A line determines the number of its user and the status of
the request: the status begins after the first arrow, and the detail of a fault, which may hold
anything, reaches to the end of the line. -/

namespace LoginLoad

/-- Reads the text after a given beginning as some kind of fault. -/
def RequestFault.read? (text : List Char) : Option RequestFault :=
  let after (kind : String) : Option String := (Text.after? kind.toList text).map String.ofList
  (after "connect: ").map .connect <|> (after "timeout: ").map .timeout <|>
    (after "request: ").map .request

/-- Reads a printed status. -/
def Status.read? (text : List Char) : Option Status :=
  match Text.after? "error: ".toList text with
  | some rest => (RequestFault.read? rest).map .failed
  | none =>
    match Decimal.read text with
    | .ok n => if n < 65536 then some (.code (UInt16.ofNat n)) else none
    | .error _ => none

namespace Outcome

/-- Reads a reported line without its line feed: the number of the user and the status. -/
def readLine? (line : List Char) : Option (Nat × Status) := do
  let (number, rest) := List.span Char.isDigit (← Text.after? "user-".toList line)
  let rank ← (Decimal.read number).toOption
  let status ← Status.read? (← Text.after? " -> ".toList rest)
  return (rank, status)

/-- Splits a text of whole lines at its line feeds; a text that breaks off is refused. -/
def lines? : List Char → Option (List (List Char))
  | [] => some []
  | c :: rest =>
    if c = '\n' then (lines? rest).map ([] :: ·)
    else
      match lines? rest with
      | some (line :: more) => some ((c :: line) :: more)
      | _ => none

/-- Reads all that was reported. -/
def readLines? (text : List Char) : Option (List (Nat × Status)) := do
  (← lines? text).mapM readLine?

/-- Reads all that was reported from its bytes. -/
def readOutput? (bytes : List UInt8) : Option (List (Nat × Status)) := do
  readLines? (← Utf8.decode? bytes)

end Outcome
end LoginLoad
