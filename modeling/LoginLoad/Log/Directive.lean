import LoginLoad.Log.Event
import LoginLoad.Log.Pattern
import LoginLoad.Text.Blank
import LoginLoad.Text.Decimal
import LoginLoad.Text.Utf8

/-! # Directives

A directive says which events are shown: those of a target and everything below it
(`stampede::driver`), those that have a field (`[{rank}]`), those outside every span but not
those of one (`[load]`).  A level after an equals sign (`stampede=debug`) says how weighty they must
be, and a level alone concerns every event.

* `LogDirective.read?` reads a directive and refuses a text of no such form.  The marks of a directive
  are looked for behind the blanks that its text begins with, but its pieces are cut from the whole
  text at the same distances from the start; so a blank in front shifts each piece by one.
* `LogDirective.concerns` and `LogDirective.shows` say what a directive means for an event. -/

namespace LoginLoad

/-- One directive of a filter. -/
structure LogDirective where
  /-- The least weighty level that is shown; with `none` nothing is. -/
  level : Option LogLevel := some .trace
  target : Option String := none
  /-- The name of the span to which the directive is bound. -/
  span : Option String := none
  /-- The field that an event must have, and whether a value is asked for. -/
  field : Option (String × Bool) := none
deriving DecidableEq, Repr

namespace LogDirective

/-! ### Cutting -/

/-- What is still to be read of a directive: the characters in which marks are looked for, and the
bytes from which pieces are cut. -/
structure Source where
  seen : List Char
  bytes : List UInt8
deriving DecidableEq, Repr

namespace Source

/-- The source of a directive. -/
def ofText (text : List Char) : Source := ⟨Blank.trim text, Utf8.encode text⟩

/-- All that is left. -/
def rest? (s : Source) : Option (List Char) := Utf8.decode? s.bytes

/-- The source after one mark. -/
def skip (s : Source) : Source := ⟨s.seen.drop 1, s.bytes.drop 1⟩

/-- The first mark, what stands before it, and the source after it.  A piece that would begin or end
within a character cannot be cut. -/
def cut? (isMark : Char → Bool) (s : Source) : Option (Char × List Char × Source) := do
  let (before, after) := s.seen.span (!isMark ·)
  let size := (Utf8.encode before).length
  let mark ← after.head?
  let piece ← Utf8.decode? (s.bytes.take size)
  return (mark, piece, ⟨after.drop 1, s.bytes.drop (size + 1)⟩)

end Source

/-! ### Reading -/

/-- Reads the name or the number of a level; the inner `none` is the level that shows nothing. -/
def readLevel? (text : List Char) : Option (Option LogLevel) :=
  let name := String.ofList (text.map Char.toLower)
  match Decimal.read text with
  | .ok 0 => some none
  | .ok 1 => some (some .error)
  | .ok 2 => some (some .warn)
  | .ok 3 => some (some .info)
  | .ok 4 => some (some .debug)
  | .ok 5 => some (some .trace)
  | _ =>
    if name = "error" then some (some .error)
    else if name = "warn" then some (some .warn)
    else if name = "info" then some (some .info)
    else if name = "debug" then some (some .debug)
    else if name = "trace" then some (some .trace)
    else if name = "off" then some none
    else none

/-- Reads the level after an equals sign; without one everything is shown. -/
def withLevel? (d : LogDirective) (s : Source) : Option LogDirective := do
  let text ← s.rest?
  if text.isEmpty then return d
  return { d with level := ← readLevel? text }

/-- Reads what follows the closing bracket of a span. -/
def readAfterSpan? (d : LogDirective) (s : Source) : Option LogDirective :=
  match s.seen with
  | [] => some d
  | '=' :: _ => d.withLevel? s.skip
  | _ => none

/-- Reads a field, alone or with a value that an event would have to match. -/
def readField? (text : List Char) : Option (String × Bool) :=
  let (name, rest) := text.span (· ≠ '=')
  match rest with
  | [] => if name.isEmpty then none else some (String.ofList name, false)
  | _ :: rest =>
    if Pattern.isValue (rest.takeWhile (· ≠ '=')) then some (String.ofList name, true) else none

/-- Reads what follows the opening bracket of a span. -/
def readSpan? (d : LogDirective) (s : Source) : Option LogDirective := do
  let (mark, name, s) ← s.cut? fun c => c = ']' || c = '\x7b'
  if mark = ']' then readAfterSpan? { d with span := some (String.ofList name) } s
  else
    let span := if name.isEmpty then none else some (String.ofList name)
    let (_, text, s) ← s.cut? (· = '\x7d')
    let field ← readField? text
    if s.seen.head? = some ']' then readAfterSpan? { d with span, field := some field } s.skip
    else none

/-- Whether a character may begin a level or a target. -/
def beginsName (c : Char) : Bool := c = '-' || c = ':' || c = '_' || Alphanumeric.isIn c

/-- Reads a target, and a level or a span after it. -/
def readTarget? (s : Source) : Option LogDirective := do
  let (mark, name, s) ← s.cut? fun c => c = '=' || c = '['
  let d : LogDirective := { target := some (String.ofList name) }
  if mark = '=' then d.withLevel? s else readSpan? d s

/-- Reads a level that stands alone, or else a target. -/
def readAlone? (s : Source) : Option LogDirective := do
  let text ← s.rest?
  match readLevel? text with
  | some level => return { level }
  | none => return { target := some (String.ofList text) }

/-- Reads a directive. -/
def read? (text : List Char) : Option LogDirective :=
  let s := Source.ofText text
  match s.seen with
  | [] => none
  | '[' :: _ => readSpan? {} s.skip
  | c :: rest =>
    if !beginsName c then none
    else if rest.any fun c => c = '=' || c = '[' then readTarget? s
    else readAlone? s

/-! ### Meaning -/

/-- Whether a directive decides about events outside spans. -/
def isStatic (d : LogDirective) : Bool := d.span.isNone && !d.field.any (·.2)

/-- Whether a directive concerns an event. -/
def concerns (d : LogDirective) (e : Event) : Bool :=
  (d.target.all fun t => t.toList.isPrefixOf e.target.toList) &&
    d.field.all fun (name, _) => e.names.contains name

/-- Whether the first directive is more specific than the second: its target is longer, or it alone
names a field, or the name of its field comes later. -/
def isMoreSpecific (d e : LogDirective) : Bool :=
  let size (d : LogDirective) : Nat := (d.target.map fun t => t.utf8ByteSize + 1).getD 0
  size e < size d || size e = size d &&
    match d.field, e.field with
    | some (name, _), some (other, _) => other < name
    | some _, none => true
    | none, _ => false

/-- Whether a directive shows an event. -/
def shows (d : LogDirective) (e : Event) : Bool := d.level.any fun l => e.level.rank ≤ l.rank

end LogDirective
end LoginLoad
