import LoginLoad.CommandLine.Flag
import LoginLoad.CommandLine.Similarity
import LoginLoad.Text.Utf8

/-! # Reading the arguments

How the arguments of the program are read.

* A flag is given by its name (`--users 3`, `--users=3`) or its letter (`-u 3`, `-u3`, `-u=3`).  A
  value that stands in an argument of its own does not begin with a hyphen, a single hyphen apart.
  After `--` no flag is read; as the program takes no other arguments, nothing may follow it.
* A value is looked at only when the next known flag begins or the arguments are at their end.  So an
  argument that is not known is reported even if the value before it is bad.
* `CommandLine.read` reads all arguments: the settings, a request to print something, or the first
  refusal (`Refusal`). -/

namespace LoginLoad
namespace CommandLine

/-- An argument: any bytes. -/
abbrev Argument := List UInt8

/-- The values that were given. -/
structure Settings where
  url : Option String := none
  users : Option Nat := none
  requests : Option Nat := none
  username : Option String := none
  password : Option String := none
  timeoutSecs : Option Nat := none
  noProgress : Bool := false
deriving DecidableEq, Repr

/-- Why the arguments are refused. -/
inductive Refusal where
  /-- There is no use for an argument. -/
  | unexpected (argument : String)
  /-- No flag has the name; perhaps another one was meant. Whether it is the first flag is kept. -/
  | unknownName (name : String) (meant : Option Flag) (isFirst : Bool)
  | missingValue (flag : Flag)
  | badNumber (flag : Flag) (value : String) (fault : Decimal.Fault)
  | notUtf8
  | repeated (flag : Flag)
  /-- A flag that carries none is given a value; whether no flag was looked at before is kept. -/
  | unneededValue (flag : Flag) (value : String) (isFirst : Bool)
deriving DecidableEq, Repr

/-- Why the reading stops before its end. -/
inductive Stop where
  | help
  | version
  | refused (refusal : Refusal)
deriving DecidableEq, Repr

/-- How far the arguments have been read. -/
structure Reading where
  settings : Settings := {}
  /-- The flags given so far, in order. -/
  given : List Flag := []
  /-- The flag whose value is awaited or has not been looked at. -/
  pending : Option (Flag × Option Argument) := none
deriving DecidableEq, Repr

namespace Reading

/-! ### Values -/

/-- Reads a number. -/
def number (flag : Flag) (value : Argument) : Except Stop Nat :=
  match Utf8.decode? value with
  | none => .error (.refused .notUtf8)
  | some text =>
    match Decimal.read text with
    | .ok n => .ok n
    | .error fault => .error (.refused (.badNumber flag (String.ofList text) fault))

/-- Reads a text. -/
def text (value : Argument) : Except Stop String :=
  match Utf8.decode? value with
  | none => .error (.refused .notUtf8)
  | some text => .ok (String.ofList text)

/-- The settings with the value of a flag. -/
def set (s : Settings) (flag : Flag) (value : Argument) : Except Stop Settings :=
  match flag with
  | .url => do return { s with url := some (← text value) }
  | .users => do return { s with users := some (← number flag value) }
  | .requests => do return { s with requests := some (← number flag value) }
  | .username => do return { s with username := some (← text value) }
  | .password => do return { s with password := some (← text value) }
  | .timeoutSecs => do return { s with timeoutSecs := some (← number flag value) }
  | .noProgress => .ok { s with noProgress := true }
  | .help => .error .help
  | .version => .error .version

/-- Notes that a flag is given; no flag is given twice. -/
def note (r : Reading) (flag : Flag) : Except Stop Reading :=
  if flag ∈ r.given then .error (.refused (.repeated flag))
  else .ok { r with given := r.given ++ [flag] }

/-- Gives a value to a flag. -/
def give (r : Reading) (flag : Flag) (value : Argument) : Except Stop Reading := do
  let r ← r.note flag
  return { r with settings := ← set r.settings flag value }

/-- Looks at the value that is pending. -/
def resolve (r : Reading) : Except Stop Reading :=
  match r.pending with
  | none => .ok r
  | some (flag, none) => .error (.refused (.missingValue flag))
  | some (flag, some value) => { r with pending := none }.give flag value

/-- Whether no flag was given so far, not even one with a bad value. -/
def isFresh (r : Reading) : Bool :=
  r.given.isEmpty &&
    match r.pending with
    | some (_, some _) => false
    | _ => true

/-! ### Arguments -/

/-- Reads a flag that is given without a value in the same argument. -/
def flagAlone (r : Reading) (flag : Flag) : Except Stop Reading := do
  let r ← r.resolve
  if flag.takesValue then return { r with pending := some (flag, none) }
  else r.give flag []

/-- Reads a flag that is given with its value in the same argument. -/
def flagWith (r : Reading) (flag : Flag) (value : Argument) : Except Stop Reading := do
  let r ← r.resolve
  r.give flag value

/-- Refuses an argument. -/
def unexpected {α : Type} (argument : List Char) : Except Stop α :=
  .error (.refused (.unexpected (String.ofList argument)))

/-- The flag that may be meant by an unknown name. -/
def meant? (name : List Char) : Option Flag :=
  (Similarity.best? name (Flag.all.map Flag.name)).bind Flag.named?

/-- Refuses an unknown name after two hyphens. -/
def unknownName {α : Type} (r : Reading) (name : List Char) : Except Stop α :=
  .error (.refused (.unknownName (String.ofList name) (meant? name) r.isFresh))

/-- Reads what follows two hyphens. -/
def named (r : Reading) (rest : Argument) : Except Stop Reading :=
  let (name, value) := rest.span (· ≠ 0x3D)
  match (Utf8.decode? name).bind fun n => Flag.named? (String.ofList n) with
  | none => r.unknownName (Utf8.decodeLossy name)
  | some flag =>
    match value with
    | [] => r.flagAlone flag
    | _ :: value =>
      if flag.takesValue then r.flagWith flag value
      else
        let text := String.ofList (Utf8.decodeLossy value)
        .error (.refused (.unneededValue flag text r.given.isEmpty))

/-- Reads what follows one hyphen. -/
def lettered (r : Reading) (rest : Argument) : Except Stop Reading :=
  match Utf8.decode rest with
  | some c :: _ =>
    match Flag.lettered? c with
    | none => unexpected ['-', c]
    | some flag =>
      if flag.takesValue then
        match rest.drop (Utf8.encode [c]).length with
        | [] => r.flagAlone flag
        | 0x3D :: value => r.flagWith flag value
        | value => r.flagWith flag value
      else r.flagAlone flag
  | _ => unexpected ('-' :: Utf8.decodeLossy rest)

/-- Reads an argument that is no flag: the value of the flag before it, if one is awaited. -/
def plain (r : Reading) (argument : Argument) : Except Stop Reading :=
  match r.pending with
  | some (flag, none) => .ok { r with pending := some (flag, some argument) }
  | _ => unexpected (Utf8.decodeLossy argument)

/-- Reads one argument. -/
def step (r : Reading) (argument : Argument) : Except Stop Reading :=
  match argument with
  | 0x2D :: 0x2D :: rest => r.named rest
  | 0x2D :: b :: rest => r.lettered (b :: rest)
  | _ => r.plain argument

/-- Reads all arguments. -/
def all (r : Reading) : List Argument → Except Stop Reading
  | [] => r.resolve
  | argument :: rest =>
    if argument = [0x2D, 0x2D] then
      match rest with
      | [] => r.resolve
      | next :: _ => unexpected (Utf8.decodeLossy next)
    else
      match r.step argument with
      | .ok r => r.all rest
      | .error stop => .error stop

end Reading

/-- Reads the arguments of the program. -/
def read (arguments : List Argument) : Except Stop Settings :=
  (Reading.all {} arguments).map Reading.settings

/-- The configuration that settings stand for. -/
def Settings.config (s : Settings) : Config :=
  let base : Config := {}
  let seconds := s.timeoutSecs.getD Default.timeoutSeconds
  { users := s.users.getD base.users
    requestsPerUser := s.requests.getD base.requestsPerUser
    timeout := if 0 < seconds then some (Span.ofSeconds seconds) else none
    progress := !s.noProgress
    spec := {
      url := s.url.getD Default.url
      body := ⟨s.username.getD Default.username, s.password.getD Default.password⟩ } }

end CommandLine
end LoginLoad
