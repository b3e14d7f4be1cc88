import LoginLoad.Url.Domain
import LoginLoad.Url.Ip

/-! # URLs

The parts of a URL and its written form.

* A host is a name or an address (`Host`).
* A path is opaque, as in `mailto:a@b`, or a list of segments.
* `Url.text` writes a URL, `Url.withoutCredentials` removes the user name and the password. -/

namespace LoginLoad

/-- The host of a URL. -/
inductive Host where
  | name (text : List Char)
  | ipv4 (address : UInt32)
  | ipv6 (groups : List UInt16)
deriving DecidableEq, Repr

/-- The written form of a host. -/
def Host.text : Host → List Char
  | name text => text
  | ipv4 address => Ipv4.text address
  | ipv6 groups => '[' :: Ipv6.text groups ++ [']']

/-- The part of a URL that follows the double slash. A URL such as `file:///x` has one without a
host. -/
structure Authority where
  username : List Char := []
  password : List Char := []
  host : Option Host := none
  /-- The port, where it differs from the default port of the scheme. -/
  port : Option Nat := none
deriving DecidableEq, Repr

/-- The path of a URL. -/
inductive UrlPath where
  | opaquePath (text : List Char)
  | segments (parts : List (List Char))
deriving DecidableEq, Repr

/-- A URL. Its parts are kept in their encoded forms. -/
structure Url where
  scheme : List Char
  authority : Option Authority := none
  path : UrlPath
  query : Option (List Char) := none
  fragment : Option (List Char) := none
deriving DecidableEq, Repr

/-- The default ports of the special schemes that have one. -/
def defaultPort? (scheme : List Char) : Option Nat :=
  if scheme = "http".toList ∨ scheme = "ws".toList then some 80
  else if scheme = "https".toList ∨ scheme = "wss".toList then some 443
  else if scheme = "ftp".toList then some 21
  else none

/-- Whether a scheme names files. -/
def isFileScheme (scheme : List Char) : Bool := scheme = "file".toList

/-- Whether a scheme is special: a URL of it always has a host, files apart, and a backslash in it
stands for a slash. -/
def isSpecialScheme (scheme : List Char) : Bool :=
  (defaultPort? scheme).isSome || isFileScheme scheme

namespace Authority

/-- User name and password with the sign after them, if there is one of them. -/
def credentialsText (a : Authority) : List Char :=
  if a.username.isEmpty && a.password.isEmpty then []
  else a.username ++ (if a.password.isEmpty then [] else ':' :: a.password) ++ ['@']

/-- Host and port. -/
def hostText (a : Authority) : List Char :=
  (a.host.map Host.text).getD [] ++
    (match a.port with | some p => ':' :: Decimal.digits p | none => [])

/-- The written form. -/
def text (a : Authority) : List Char := a.credentialsText ++ a.hostText

end Authority

/-- The written form of a path. -/
def UrlPath.text : UrlPath → List Char
  | opaquePath text => text
  | segments parts => parts.flatMap ('/' :: ·)

namespace Url

/-- The path as it stands in the written form: without an authority a path must not begin like one. -/
def pathText (u : Url) : List Char :=
  match u.authority, u.path with
  | none, .segments ([] :: p :: parts) => "/.".toList ++ (UrlPath.segments ([] :: p :: parts)).text
  | _, path => path.text

/-- The query with its sign. -/
def queryText (u : Url) : List Char :=
  match u.query with
  | some q => '?' :: q
  | none => []

/-- The fragment with its sign. -/
def fragmentText (u : Url) : List Char :=
  match u.fragment with
  | some f => '#' :: f
  | none => []

/-- The written form of a URL. -/
def text (u : Url) : List Char :=
  u.scheme ++ ':' :: (match u.authority with | some a => "//".toList ++ a.text | none => []) ++
    u.pathText ++ u.queryText ++ u.fragmentText

/-- The host, if there is one. -/
def host? (u : Url) : Option Host := u.authority.bind (·.host)

/-- The port to connect to, if the scheme has a default port or one is given. -/
def port? (u : Url) : Option Nat := (u.authority.bind (·.port)) <|> defaultPort? u.scheme

/-- The encoded user name. -/
def username (u : Url) : List Char := (u.authority.map (·.username)).getD []

/-- The encoded password. -/
def password (u : Url) : List Char := (u.authority.map (·.password)).getD []

/-- The URL without user name and password. -/
def withoutCredentials (u : Url) : Url :=
  { u with authority := u.authority.map fun a => { a with username := [], password := [] } }

/-- The URL without its fragment. -/
def withoutFragment (u : Url) : Url := { u with fragment := none }

/-- The part of the URL that a request line names: path and query. -/
def target (u : Url) : List Char :=
  let path := u.pathText
  (if path.isEmpty then ['/'] else path) ++ u.queryText

@[simp] theorem scheme_withoutCredentials (u : Url) :
    u.withoutCredentials.scheme = u.scheme := rfl

@[simp] theorem host?_withoutCredentials (u : Url) : u.withoutCredentials.host? = u.host? := by
  cases h : u.authority <;> simp [host?, withoutCredentials, h]

@[simp] theorem port?_withoutCredentials (u : Url) : u.withoutCredentials.port? = u.port? := by
  cases h : u.authority <;> simp [port?, withoutCredentials, h]

@[simp] theorem target_withoutCredentials (u : Url) :
    u.withoutCredentials.target = u.target := by
  cases h : u.authority <;> simp [target, pathText, queryText, withoutCredentials, h]

end Url
end LoginLoad
