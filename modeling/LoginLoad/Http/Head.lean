import LoginLoad.Text.Decimal

/-! # The head of a response

The head of a response is read byte by byte, so that it does not matter how the bytes were cut when
they arrived: `HeadState.feed` over two pieces in turn is `feed` over both together (`feed_append`).

* Empty lines before the head are skipped.  The first line is `HTTP/1.0` or `HTTP/1.1`, a blank and
  three digits, and perhaps a blank and a reason, which is skipped.  A header is a name, a colon and a
  value without the blanks around it.  A line ends with a line feed, before which a carriage return
  may stand.  An empty line ends the head.
* A byte that fits nowhere ends the reading with a fault that names the part it was met in, and so
  does the beginning of a header beyond the hundredth. -/

namespace LoginLoad
namespace Http

/-- The versions of the protocol. -/
inductive Version where
  | http10
  | http11
deriving DecidableEq, Repr

/-- The printed form of a version. -/
def Version.text : Version → String
  | http10 => "HTTP/1.0"
  | http11 => "HTTP/1.1"

/-- Why the head of a response is refused. -/
inductive HeadFault where
  | version
  | status
  | header
  | tooLarge
  | contentLength
  | transferEncoding
deriving DecidableEq, Repr

/-- The wording of a fault. -/
def HeadFault.message : HeadFault → String
  | version => "invalid HTTP version parsed"
  | status => "invalid HTTP status-code parsed"
  | header => "invalid HTTP header parsed"
  | tooLarge => "message head is too large"
  | contentLength => "invalid content-length parsed"
  | transferEncoding => "unexpected transfer-encoding parsed"

/-- A header: its name in small letters and its value. -/
structure Header where
  name : List Char
  value : List UInt8
deriving DecidableEq, Repr

/-- The head of a response. -/
structure ResponseHead where
  version : Version
  code : Nat
  headers : List Header
deriving DecidableEq, Repr

namespace ResponseHead

/-- The values of all headers of a name, in order. -/
def values (h : ResponseHead) (name : String) : List (List UInt8) :=
  (h.headers.filter fun x => x.name = name.toList).map Header.value

/-- The value of the first header of a name. -/
def value? (h : ResponseHead) (name : String) : Option (List UInt8) := (h.values name).head?

end ResponseHead

/-- The characters of a value that holds printable ASCII and tabs only. -/
def asciiText? (value : List UInt8) : Option (List Char) :=
  if value.all fun b => b = 9 || 0x20 ≤ b && b < 0x7F then
    some (value.map fun b => Char.ofNat b.toNat)
  else none

/-! ### Reading -/

/-- The most headers that a head may have. -/
def maxHeaders : Nat := 100

/-- How much of a head has been read. -/
inductive HeadState where
  /-- Before the first line. -/
  | blank
  /-- After the carriage return of an empty line before the first one. -/
  | blankReturn
  /-- In the version, of which these bytes are still to come before its last digit. -/
  | version (ahead : List UInt8)
  | versionEnd (version : Version)
  /-- In the code, of which some digits have been read. -/
  | code (version : Version) (digits value : Nat)
  | codeEnd (version : Version) (code : Nat)
  | reason (version : Version) (code : Nat)
  /-- After the carriage return of the first line. -/
  | lineReturn (version : Version) (code : Nat)
  /-- At the beginning of a line after the first; `done` holds the headers in reverse. -/
  | lineStart (version : Version) (code : Nat) (done : List Header)
  /-- In the name of a header, which is kept in reverse. -/
  | name (version : Version) (code : Nat) (done : List Header) (name : List Char)
  /-- Before the value of a header. -/
  | valueStart (version : Version) (code : Nat) (done : List Header) (name : List Char)
  /-- In the value of a header, which is kept in reverse. -/
  | value (version : Version) (code : Nat) (done : List Header) (name : List Char)
      (value : List UInt8)
  /-- After the carriage return of a header. -/
  | valueReturn (version : Version) (code : Nat) (done : List Header) (name : List Char)
      (value : List UInt8)
  /-- After the carriage return of the line that ends the head. -/
  | endReturn (version : Version) (code : Nat) (done : List Header)
  | complete (head : ResponseHead)
  | failed (fault : HeadFault)
deriving DecidableEq, Repr

namespace HeadState

/-- Whether a byte may stand in the name of a header. -/
def isNameByte (b : UInt8) : Bool :=
  let c := Char.ofNat b.toNat
  b < 0x80 && (c.isAlphanum || "!#$%&'*+-.^_\x60|~".toList.contains c)

/-- Whether a byte may stand in a value or a reason. -/
def isTextByte (b : UInt8) : Bool := b = 9 || 0x20 ≤ b && b ≠ 0x7F

/-- The headers with one more, the blanks at the end of its value being dropped. -/
def addHeader (done : List Header) (name : List Char) (value : List UInt8) : List Header :=
  ⟨name.reverse, (value.dropWhile fun b => b = 0x20 || b = 9).reverse⟩ :: done

/-- The end of a head. -/
def finish (version : Version) (code : Nat) (done : List Header) : HeadState :=
  if code < 100 then failed .status else complete ⟨version, code, done.reverse⟩

/-- Reads the first byte of a line after the first line. -/
def beginLine (version : Version) (code : Nat) (done : List Header) (b : UInt8) : HeadState :=
  if b = 13 then endReturn version code done
  else if b = 10 then finish version code done
  else if maxHeaders ≤ done.length then failed .tooLarge
  else if isNameByte b then name version code done [(Char.ofNat b.toNat).toLower]
  else failed .header

/-- Reads one byte of the version. -/
def readVersion (ahead : List UInt8) (b : UInt8) : HeadState :=
  match ahead with
  | c :: rest => if b = c then version rest else failed .version
  | [] =>
    if b = 0x30 then versionEnd .http10 else if b = 0x31 then versionEnd .http11 else failed .version

/-- The bytes of a version before its last digit. -/
def versionBytes : List UInt8 := "HTTP/1.".toList.map fun c => UInt8.ofNat c.toNat

/-- Reads one byte. A head that is complete or refused stays as it is. -/
def step (s : HeadState) (b : UInt8) : HeadState :=
  match s with
  | blank =>
    if b = 13 then blankReturn else if b = 10 then blank else readVersion versionBytes b
  | blankReturn => if b = 10 then blank else failed .header
  | version ahead => readVersion ahead b
  | versionEnd v => if b = 0x20 then code v 0 0 else failed .version
  | code v digits acc =>
    if 0x30 ≤ b ∧ b ≤ 0x39 then
      let next := 10 * acc + (b.toNat - 0x30)
      if digits = 2 then codeEnd v next else code v (digits + 1) next
    else failed .status
  | codeEnd v c =>
    if b = 0x20 then reason v c
    else if b = 13 then lineReturn v c
    else if b = 10 then lineStart v c []
    else failed .status
  | reason v c =>
    if b = 13 then lineReturn v c
    else if b = 10 then lineStart v c []
    else if isTextByte b then reason v c
    else failed .status
  | lineReturn v c => if b = 10 then lineStart v c [] else failed .status
  | lineStart v c done => beginLine v c done b
  | name v c done n =>
    if b = 0x3A then valueStart v c done n
    else if isNameByte b then name v c done ((Char.ofNat b.toNat).toLower :: n)
    else failed .header
  | valueStart v c done n =>
    if b = 0x20 || b = 9 then valueStart v c done n
    else if b = 13 then valueReturn v c done n []
    else if b = 10 then lineStart v c (addHeader done n [])
    else if isTextByte b then value v c done n [b]
    else failed .header
  | value v c done n val =>
    if b = 13 then valueReturn v c done n val
    else if b = 10 then lineStart v c (addHeader done n val)
    else if isTextByte b then value v c done n (b :: val)
    else failed .header
  | valueReturn v c done n val =>
    if b = 10 then lineStart v c (addHeader done n val) else failed .header
  | endReturn v c done => if b = 10 then finish v c done else failed .header
  | complete head => complete head
  | failed f => failed f

/-- Reads bytes in turn. -/
def feed (s : HeadState) (bytes : List UInt8) : HeadState := bytes.foldl step s

theorem feed_append (s : HeadState) (xs ys : List UInt8) :
    s.feed (xs ++ ys) = (s.feed xs).feed ys := List.foldl_append

end HeadState
end Http
end LoginLoad
