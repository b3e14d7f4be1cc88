import LoginLoad.CommandLine.Arguments
import LoginLoad.Text.Terminal

/-! # What the command line prints

The help, the version and the refusals, as texts whose parts have styles.  `Styled.coloured` writes
such a text with the marks of a terminal around each styled part.  Where no marks are wanted
`Styled.render` leaves out everything that steers a terminal, also what the arguments held of it. -/

namespace LoginLoad
namespace CommandLine

/-- The styles of a part of a text. -/
inductive Style where
  | none
  | header
  | literal
  | error
  | invalid
  | valid
deriving DecidableEq, Repr

/-- The marks that switch a style on. -/
def Style.marks : Style → String
  | none => ""
  | header => "\x1b[1m\x1b[4m"
  | literal => "\x1b[1m"
  | error => "\x1b[1m\x1b[31m"
  | invalid => "\x1b[33m"
  | valid => "\x1b[32m"

/-- A text whose parts have styles. -/
abbrev Styled := List (Style × String)

namespace Styled

/-- A part without a style. -/
def text (s : String) : Styled := [(.none, s)]

/-- The parts of a text without their styles. -/
def plain (s : Styled) : String := String.join (s.map (·.2))

/-- Writes a text with the marks of its styles. -/
def coloured (s : Styled) : String :=
  String.join (s.map fun (style, part) =>
    match style with
    | .none => part
    | style => style.marks ++ part ++ "\x1b[0m")

/-- Writes a text with its styles, or so that nothing in it steers a terminal. -/
def render (colours : Bool) (s : Styled) : String :=
  if colours then s.coloured else Terminal.readable s.coloured

end Styled

open Styled (text)

/-- The name under which the program is called. -/
def programName : String := "main"

/-- The name of the program and its version. -/
def versionText : String := "stampede 0.1.0\n"

/-! ### Help -/

/-- A flag as the help lists it, and the number of its columns. -/
def listed (f : Flag) : Styled :=
  let letter : Styled := match f.letter? with
    | some c => [(.literal, "-" ++ c.toString), (.none, ", ")]
    | none => text "    "
  let value : Styled := match f.valueName? with
    | some v => text (" <" ++ v ++ ">")
    | none => []
  letter ++ (.literal, "--" ++ f.name) :: value

/-- The number of columns of a text. -/
def width (s : Styled) : Nat := s.plain.length

/-- The line of a flag in the help, its summary starting at a column. -/
def helpLine (column : Nat) (f : Flag) : Styled :=
  let default := match f.default? with
    | some v => " [default: " ++ v ++ "]"
    | none => ""
  let gap := String.ofList (List.replicate (column - width (listed f)) ' ')
  text "  " ++ listed f ++ text (gap ++ f.summary ++ default ++ "\n")

/-- What the usage shows behind the name of the program. -/
inductive Usage where
  /-- A word for all flags. -/
  | options
  /-- A single flag. -/
  | only (flag : Flag)
  /-- Perhaps a flag that only prints something, and the choice of all the others. -/
  | choice (printing : Option Flag)
deriving DecidableEq, Repr

/-- A flag as the usage shows it. -/
def usedFlag (f : Flag) : Styled :=
  [(.none, " "), (.literal, "--" ++ f.name)] ++
    (match f.valueName? with | some v => text (" <" ++ v ++ ">") | none => [])

/-- How the program is called. -/
def Usage.line (u : Usage) : Styled :=
  [(.header, "Usage:"), (.none, " "), (.literal, programName)] ++
    match u with
    | options => text " [OPTIONS]"
    | only flag => usedFlag flag
    | choice printing =>
      printing.toList.flatMap usedFlag ++
        text (" <" ++ String.intercalate "|" (Flag.settings.map Flag.label) ++ ">")

/-- The help. -/
def help : Styled :=
  let column := (Flag.all.map fun f => width (listed f)).foldl max 0 + 2
  Usage.options.line ++ [(.none, "\n\n"), (.header, "Options:"), (.none, "\n")] ++
    Flag.all.flatMap (helpLine column)

/-! ### Refusals -/

namespace Refusal

/-- A part in quotes. -/
def quoted (style : Style) (s : String) : Styled := [(.none, "'"), (style, s), (.none, "'")]

/-- What is wrong. -/
def reason : Refusal → Styled
  | unexpected argument => text "unexpected argument " ++ quoted .invalid argument ++ text " found"
  | unknownName name _ _ =>
    text "unexpected argument " ++ quoted .invalid ("--" ++ name) ++ text " found"
  | missingValue flag =>
    text "a value is required for " ++ quoted .invalid flag.label ++ text " but none was supplied"
  | badNumber flag value fault =>
    text "invalid value " ++ quoted .invalid value ++ text " for " ++ quoted .literal flag.label ++
      text (": " ++ fault.message)
  | notUtf8 => text "invalid UTF-8 was detected in one or more arguments"
  | repeated flag =>
    text "the argument " ++ quoted .invalid flag.label ++ text " cannot be used multiple times"
  | unneededValue flag value _ =>
    text "unexpected value " ++ quoted .invalid value ++ text " for " ++ quoted .literal flag.label ++
      text " found; no more were expected"

/-- A flag that may have been meant. -/
def tip : Refusal → Styled
  | unknownName _ (some flag) _ =>
    [(.none, "\n\n  "), (.valid, "tip:"), (.none, " a similar argument exists: ")] ++
      quoted .valid ("--" ++ flag.name)
  | _ => []

/-- The usage with a flag, or without one; as soon as others came before it shows the choice. -/
def usageWith (isFirst : Bool) (flag : Option Flag) : Usage :=
  if isFirst then
    match flag with
    | some flag => .only flag
    | none => .options
  else .choice (flag.filter (· ∉ Flag.settings))

/-- The usage that a refusal shows, if it shows one. -/
def usage? : Refusal → Option Usage
  | unexpected _ | notUtf8 | repeated _ => some .options
  | unknownName _ meant isFirst => some (usageWith isFirst meant)
  | unneededValue flag _ isFirst => some (usageWith isFirst (some flag))
  | missingValue _ | badNumber .. => none

/-- The whole text of a refusal. -/
def message (r : Refusal) : Styled :=
  let usageLines := match r.usage? with
    | some usage => text "\n\n" ++ usage.line
    | none => []
  [(.error, "error:"), (.none, " ")] ++ r.reason ++ r.tip ++ usageLines ++
    text "\n\nFor more information, try " ++ quoted .literal "--help" ++ text ".\n"

end Refusal
end CommandLine
end LoginLoad
