import LoginLoad.Config

/-! # The flags of the command line

The flags that the program knows: those that carry a value and set a part of the configuration, the
switch that suppresses the progress bar, and the two that only print something. -/

namespace LoginLoad
namespace CommandLine

/-- A flag. -/
inductive Flag where
  | url
  | users
  | requests
  | username
  | password
  | timeoutSecs
  | noProgress
  | help
  | version
deriving DecidableEq, Repr

namespace Flag

/-- All flags, in the order in which they are listed. -/
def all : List Flag :=
  [url, users, requests, username, password, timeoutSecs, noProgress, help, version]

/-- The flags that say how the run is to be made. -/
def settings : List Flag := [url, users, requests, username, password, timeoutSecs, noProgress]

/-- The name of a flag, as it follows two hyphens. -/
def name : Flag → String
  | url => "url"
  | users => "users"
  | requests => "requests"
  | username => "username"
  | password => "password"
  | timeoutSecs => "timeout-secs"
  | noProgress => "no-progress"
  | help => "help"
  | version => "version"

/-- The letter of a flag, as it follows one hyphen. -/
def letter? : Flag → Option Char
  | users => some 'u'
  | requests => some 'r'
  | timeoutSecs => some 't'
  | help => some 'h'
  | version => some 'V'
  | _ => none

/-- What the value of a flag is called. -/
def valueName? : Flag → Option String
  | url => some "URL"
  | users => some "USERS"
  | requests => some "REQUESTS"
  | username => some "USERNAME"
  | password => some "PASSWORD"
  | timeoutSecs => some "TIMEOUT_SECS"
  | _ => none

/-- Whether a flag carries a value. -/
def takesValue (f : Flag) : Bool := f.valueName?.isSome

/-- A flag as messages name it. -/
def label (f : Flag) : String :=
  "--" ++ f.name ++ (match f.valueName? with | some v => " <" ++ v ++ ">" | none => "")

/-- What a flag is for. -/
def summary : Flag → String
  | url => "Login endpoint to post to"
  | users => "Number of virtual users"
  | requests => "Sequential requests sent by each virtual user"
  | username => "Username placed in the JSON body"
  | password => "Password placed in the JSON body"
  | timeoutSecs => "Per-request timeout in seconds, 0 to wait forever"
  | noProgress => "Do not draw the progress bar"
  | help => "Print help"
  | version => "Print version"

/-- The value that counts where a flag is left out. -/
def default? : Flag → Option String
  | url => some Default.url
  | users => some (toString Default.users)
  | requests => some (toString Default.requestsPerUser)
  | username => some Default.username
  | password => some Default.password
  | timeoutSecs => some (toString Default.timeoutSeconds)
  | _ => none

/-- The flag of a name. -/
def named? (text : String) : Option Flag := all.find? (·.name = text)

/-- The flag of a letter. -/
def lettered? (c : Char) : Option Flag := all.find? (·.letter? = some c)

end Flag
end CommandLine
end LoginLoad
