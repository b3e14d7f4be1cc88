import LoginLoad.CommandLine.Arguments

/-! # Writing arguments

The arguments with which settings can be given, in each of the spellings that the reader accepts. -/

namespace LoginLoad
namespace CommandLine

/-- One setting. -/
inductive Setting where
  | url (text : String)
  | users (n : Nat)
  | requests (n : Nat)
  | username (text : String)
  | password (text : String)
  | timeoutSecs (n : Nat)
  | noProgress
deriving DecidableEq, Repr

namespace Setting

/-- The flag of a setting. -/
def flag : Setting → Flag
  | url _ => .url
  | users _ => .users
  | requests _ => .requests
  | username _ => .username
  | password _ => .password
  | timeoutSecs _ => .timeoutSecs
  | noProgress => .noProgress

/-- The text of the value, if the setting has one. -/
def valueText? : Setting → Option (List Char)
  | url text | username text | password text => some text.toList
  | users n | requests n | timeoutSecs n => some (Decimal.digits n)
  | noProgress => none

/-- Whether a number in a setting fits in a word. -/
def fits : Setting → Bool
  | users n | requests n | timeoutSecs n => n ≤ wordMax
  | _ => true

/-- The settings with one more. -/
def apply (s : Settings) : Setting → Settings
  | url text => { s with url := some text }
  | users n => { s with users := some n }
  | requests n => { s with requests := some n }
  | username text => { s with username := some text }
  | password text => { s with password := some text }
  | timeoutSecs n => { s with timeoutSecs := some n }
  | noProgress => { s with noProgress := true }

end Setting

/-- How a value stands beside its flag. -/
inductive Spelling where
  /-- In the same argument, after an equals sign. -/
  | equals
  /-- In the same argument, directly after the letter. -/
  | glued
  /-- In an argument of its own. -/
  | apart
deriving DecidableEq, Repr

/-- A setting and its spelling. -/
structure Spelled where
  setting : Setting
  spelling : Spelling
deriving DecidableEq, Repr

namespace Spelled

/-- Whether the spelling is open to the setting: only a number is glued to its letter, and a value
that stands alone does not begin with a hyphen. -/
def isSound (s : Spelled) : Bool :=
  s.setting.fits &&
    match s.spelling, s.setting.valueText? with
    | .equals, _ => true
    | .glued, _ => s.setting.flag.letter?.isSome
    | .apart, some ('-' :: _) => false
    | .apart, _ => true

/-- The arguments. A switch is the same in all spellings. -/
def arguments (s : Spelled) : List Argument :=
  let name := '-' :: '-' :: s.setting.flag.name.toList
  match s.setting.valueText?, s.spelling with
  | none, _ => [Utf8.encode name]
  | some value, .equals => [Utf8.encode (name ++ '=' :: value)]
  | some value, .glued => [Utf8.encode ('-' :: s.setting.flag.letter?.toList ++ value)]
  | some value, .apart => [Utf8.encode name, Utf8.encode value]

end Spelled

/-- The arguments of several settings in order. -/
def spell (all : List Spelled) : List Argument := all.flatMap Spelled.arguments

end CommandLine
end LoginLoad
