import LoginLoad.Text.Utf8

/-! # Texts for a terminal

A text may hold sequences of bytes that steer a terminal: an escape byte, what kind of sequence
follows, parameters, and a last byte.  `Terminal.readable` is what a reader sees of such a text: the
printed characters, blanks and line breaks, without the sequences and without other controls.

A sequence that is interrupted by a blank control such as a line feed is shown from there on; a
control that is not shown takes the sequence up again where it was left. -/

namespace LoginLoad
namespace Terminal

/-- Where a terminal stands in a sequence. -/
inductive Place where
  /-- Outside any sequence. -/
  | ground
  | escape
  | escapeMore
  | csiEntry
  | csiParameters
  | csiMore
  | csiIgnored
  | dcsEntry
  | dcsParameters
  | dcsMore
  | dcsIgnored
  | dcsData
  /-- In a message that the terminal drops. -/
  | message
  /-- In a command to the system of the terminal. -/
  | command
deriving DecidableEq, Repr

/-- The bytes that end a sequence. -/
def isFinal (b : UInt8) : Bool := 0x40 ≤ b && b ≤ 0x7E

/-- The bytes between the parameters of a sequence and its end. -/
def isIntermediate (b : UInt8) : Bool := 0x20 ≤ b && b ≤ 0x2F

/-- The digits and separators of parameters. -/
def isParameter (b : UInt8) : Bool := 0x30 ≤ b && b ≤ 0x3B

/-- The bytes that make the parameters private; elsewhere they spoil the sequence. -/
def isPrivate (b : UInt8) : Bool := 0x3C ≤ b && b ≤ 0x3F

/-- The place after a byte of a sequence that is neither an escape nor a cancellation. -/
def Place.within (p : Place) (b : UInt8) : Place :=
  match p with
  | ground => ground
  | escape =>
    if isIntermediate b then escapeMore
    else if b = 0x50 then dcsEntry
    else if b = 0x5B then csiEntry
    else if b = 0x5D then command
    else if b = 0x58 || b = 0x5E || b = 0x5F then message
    else if 0x30 ≤ b && b ≤ 0x7E then ground
    else escape
  | escapeMore => if 0x30 ≤ b && b ≤ 0x7E then ground else escapeMore
  | csiEntry =>
    if isIntermediate b then csiMore
    else if isParameter b || isPrivate b then csiParameters
    else if isFinal b then ground
    else csiEntry
  | csiParameters =>
    if isIntermediate b then csiMore
    else if isPrivate b then csiIgnored
    else if isFinal b then ground
    else csiParameters
  | csiMore =>
    if isParameter b || isPrivate b then csiIgnored else if isFinal b then ground else csiMore
  | csiIgnored => if isFinal b then ground else csiIgnored
  | dcsEntry =>
    if isIntermediate b then dcsMore
    else if isParameter b || isPrivate b then dcsParameters
    else if isFinal b then dcsData
    else dcsEntry
  | dcsParameters =>
    if isIntermediate b then dcsMore
    else if isPrivate b then dcsIgnored
    else if isFinal b then dcsData
    else dcsParameters
  | dcsMore =>
    if isParameter b || isPrivate b then dcsIgnored else if isFinal b then dcsData else dcsMore
  | dcsIgnored => if b = 0x9C then ground else dcsIgnored
  | dcsData => if b = 0x9C then ground else dcsData
  | message => if b = 0x9C then ground else message
  | command => if b = 0x07 then ground else command

/-- The place after a byte: an escape begins a sequence wherever it stands, and a cancellation ends
one. -/
def Place.next (p : Place) (b : UInt8) : Place :=
  if b = 0x1B then escape else if b = 0x18 || b = 0x1A then ground else p.within b

/-- Whether controls have their effect at a place. -/
def Place.obeysControls : Place → Bool
  | ground | escape | escapeMore | csiEntry | csiParameters | csiMore | csiIgnored => true
  | _ => false

/-- Tabs, line feeds, form feeds and carriage returns. -/
def isBlankControl (b : UInt8) : Bool := b = 0x09 || b = 0x0A || b = 0x0C || b = 0x0D

/-- Whether a byte of ASCII is shown at a place. -/
def Place.shows (p : Place) (b : UInt8) : Bool :=
  p.obeysControls && isBlankControl b || p = ground && 0x20 ≤ b && b ≤ 0x7E

/-- The number of bytes that follow the first byte of a character beyond ASCII. -/
def followers (b : UInt8) : Nat := ((Utf8.lead b).map (·.count)).getD 0

/-- How far a text has been read. -/
structure Scan where
  place : Place := .ground
  /-- Whether the byte before was shown; then the next one is read as outside any sequence. -/
  isShowing : Bool := false
  /-- The bytes that the character under way still has. -/
  left : Nat := 0

/-- Reads one byte and says whether it is shown. -/
def Scan.step (s : Scan) (b : UInt8) : Scan × Bool :=
  let place := if s.isShowing then .ground else s.place
  if 0 < s.left then ({ s with left := s.left - 1 }, true)
  else if place = .ground && 0 < followers b then (⟨.ground, true, followers b⟩, true)
  else if place.shows b then ({ s with isShowing := true }, true)
  else ({ s with place := s.place.next b, isShowing := false }, false)

/-- The bytes that are shown. -/
def shownBytes (s : Scan) : List UInt8 → List UInt8
  | [] => []
  | b :: rest =>
    match s.step b with
    | (s, true) => b :: shownBytes s rest
    | (s, false) => shownBytes s rest

/-- What a reader sees of a text. -/
def readable (text : String) : String :=
  String.ofList (Utf8.decodeLossy (shownBytes {} (Utf8.encode text.toList)))

end Terminal
end LoginLoad
