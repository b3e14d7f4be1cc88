import LoginLoad.Http.Head

/-! # The body of a response

How long the body of a response is, and how it is read.

* `Framing.ofHead?` decides by the head alone: no body, a number of bytes, chunks, or everything up
  to the end of the connection.  A head that contradicts itself is refused.
* The body is read byte by byte (`BodyState.step`), and the end of the connection is an event of its
  own (`BodyState.atEnd`).  Its content is not kept. -/

namespace LoginLoad
namespace Http

/-- Where a body ends. -/
inductive Framing where
  | empty
  | length (bytes : Nat)
  | chunks
  | untilEnd
deriving DecidableEq, Repr

/-- Drops the blanks at both ends of a text. -/
def trimBlanks (text : List Char) : List Char :=
  let blank (c : Char) : Bool := c = ' ' || c = '\t'
  ((text.dropWhile blank).reverse.dropWhile blank).reverse

/-- Splits a text at its commas. -/
def splitCommas : List Char → List (List Char)
  | [] => [[]]
  | c :: rest =>
    if c = ',' then [] :: splitCommas rest
    else
      match splitCommas rest with
      | [] => [[c]]
      | part :: parts => (c :: part) :: parts

/-- The entries of a header value that is a list; a value that is not ASCII has none. -/
def listEntries (value : List UInt8) : List (List Char) :=
  match asciiText? value with
  | some text => (splitCommas text).map trimBlanks
  | none => []

/-- Whether a list value has an entry, in capitals or not. -/
def hasEntry (entry : String) (value : List UInt8) : Bool :=
  (listEntries value).any fun e => e.map Char.toLower = entry.toList

/-- A number of bytes: digits only, at most a word. -/
def length? (text : List Char) : Option Nat :=
  if text.all Char.isDigit then (Decimal.read text).toOption else none

/-- The one number of bytes that all the given values state. -/
def agreedLength? (values : List (List UInt8)) : Option Nat := do
  let entries ← values.mapM fun v => (asciiText? v).map fun t => (splitCommas t).map trimBlanks
  match ← entries.flatten.mapM length? with
  | [] => none
  | n :: rest => if rest.all (· = n) then some n else none

namespace Framing

/-- The framing that a final head asks for. -/
def ofHead? (h : ResponseHead) : Except HeadFault Framing :=
  if h.code = 101 ∨ h.code = 204 ∨ h.code = 304 then .ok .empty
  else
    match (h.values "transfer-encoding").getLast? with
    | some value =>
      if h.version = .http10 then .error .transferEncoding
      else if (listEntries value).getLast?.any (·.map Char.toLower = "chunked".toList) then
        .ok .chunks
      else .ok .untilEnd
    | none =>
      match h.values "content-length" with
      | [] => .ok .untilEnd
      | values =>
        match agreedLength? values with
        | none => .error .contentLength
        | some n => if wordMax - 2 < n then .error .tooLarge else .ok (.length n)

end Framing

/-- Why a body cannot be read to its end. -/
inductive BodyFault where
  | cutOff
  | cutOffInSize
  | sizeMissing
  | badSize
  | badSizeBlank
  | sizeTooLarge
  | badExtension
  | badSizeEnd
  | badChunkReturn
  | badChunkEnd
  | badTrailerEnd
  | badEnd
  | timedOut
deriving DecidableEq, Repr

namespace BodyFault

/-- The wording of what is wrong with the bytes of a body. -/
def reason : BodyFault → String
  | cutOff => "end of file before message length reached"
  | cutOffInSize => "unexpected EOF during chunk size line"
  | sizeMissing => "Invalid chunk size line: missing size digit"
  | badSize => "Invalid chunk size line: Invalid Size"
  | badSizeBlank => "Invalid chunk size linear white space"
  | sizeTooLarge => "invalid chunk size: overflow"
  | badExtension => "invalid chunk extension contains newline"
  | badSizeEnd => "Invalid chunk size LF"
  | badChunkReturn => "Invalid chunk body CR"
  | badChunkEnd => "Invalid chunk body LF"
  | badTrailerEnd => "Invalid trailer end LF"
  | badEnd => "Invalid chunk end LF"
  | timedOut => "operation timed out"

/-- The text of a fault. -/
def message (f : BodyFault) : String :=
  match f with
  | timedOut => "request or response body error: " ++ f.reason
  | f => "request or response body error: error reading a body from connection: " ++ f.reason

end BodyFault

/-- How much of a body has been read. -/
inductive BodyState where
  /-- Some bytes are still to come. -/
  | length (left : Nat)
  | untilEnd
  /-- Before the first digit of the size of a chunk. -/
  | sizeStart
  | size (value : Nat)
  /-- After a blank that follows a size. -/
  | sizeBlank (value : Nat)
  | extension (value : Nat)
  | sizeReturn (value : Nat)
  /-- Some bytes of a chunk are still to come. -/
  | chunk (left : Nat)
  | chunkEnd
  | chunkReturn
  /-- At the beginning of a line after the last chunk. -/
  | lastLine
  | trailer
  | trailerReturn
  | lastReturn
  | complete
  | broken (fault : BodyFault)
deriving DecidableEq, Repr

namespace BodyState

/-- A body of which nothing has been read. -/
def ofFraming : Framing → BodyState
  | .empty => complete
  | .length n => if n = 0 then complete else length n
  | .chunks => sizeStart
  | .untilEnd => untilEnd

/-- The value of a hexadecimal digit. -/
def hexValue? (b : UInt8) : Option Nat :=
  if 0x30 ≤ b ∧ b ≤ 0x39 then some (b.toNat - 0x30)
  else if 0x61 ≤ b ∧ b ≤ 0x66 then some (b.toNat - 0x61 + 10)
  else if 0x41 ≤ b ∧ b ≤ 0x46 then some (b.toNat - 0x41 + 10)
  else none

/-- The size with one more digit. -/
def addDigit (value digit : Nat) : BodyState :=
  let next := 16 * value + digit
  if wordMax < next then broken .sizeTooLarge else size next

/-- Reads a byte that follows the digits of a size or a blank after them. -/
def afterSize (value : Nat) (b : UInt8) (fault : BodyFault) : BodyState :=
  if b = 9 ∨ b = 0x20 then sizeBlank value
  else if b = 0x3B then extension value
  else if b = 13 then sizeReturn value
  else broken fault

/-- Reads one byte. A body that is complete or broken stays as it is. -/
def step (s : BodyState) (b : UInt8) : BodyState :=
  match s with
  | length left => if left ≤ 1 then complete else length (left - 1)
  | untilEnd => untilEnd
  | sizeStart =>
    match hexValue? b with
    | some d => addDigit 0 d
    | none => broken .sizeMissing
  | size value =>
    match hexValue? b with
    | some d => addDigit value d
    | none => afterSize value b .badSize
  | sizeBlank value => afterSize value b .badSizeBlank
  | extension value =>
    if b = 13 then sizeReturn value else if b = 10 then broken .badExtension else extension value
  | sizeReturn value =>
    if b = 10 then (if value = 0 then lastLine else chunk value) else broken .badSizeEnd
  | chunk left => if left ≤ 1 then chunkEnd else chunk (left - 1)
  | chunkEnd => if b = 13 then chunkReturn else broken .badChunkReturn
  | chunkReturn => if b = 10 then sizeStart else broken .badChunkEnd
  | lastLine => if b = 13 then lastReturn else trailer
  | trailer => if b = 13 then trailerReturn else trailer
  | trailerReturn => if b = 10 then lastLine else broken .badTrailerEnd
  | lastReturn => if b = 10 then complete else broken .badEnd
  | complete => complete
  | broken f => broken f

/-- The connection ends. -/
def atEnd : BodyState → BodyState
  | untilEnd | complete => complete
  | broken f => broken f
  | length _ | chunk _ => broken .cutOff
  | _ => broken .cutOffInSize

end BodyState
end Http
end LoginLoad
