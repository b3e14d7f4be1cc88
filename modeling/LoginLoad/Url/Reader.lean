import LoginLoad.Url.Basic

/-! # Reading URLs

How a text is read as a URL, alone or relative to another URL.

* `Url.read? text` reads an absolute URL, `Url.join base text` a reference found at `base`.
* Blanks and control characters at both ends are dropped, and so are tabs and line breaks anywhere.
* Each refusal names its cause (`UrlFault`).  The parts are read from the left, so that of two
  faults the one further left is reported: the host before the port, a missing host first of all. -/

namespace LoginLoad

/-- Why a text is not a URL. -/
inductive UrlFault where
  | emptyHost
  | badDomainName
  | badDomainCharacter
  | badPort
  | badIpv4
  | badIpv6
  | relativeWithoutBase
  | relativeWithOpaqueBase
deriving DecidableEq, Repr

/-- The wording of a fault. -/
def UrlFault.message : UrlFault → String
  | emptyHost => "empty host"
  | badDomainName => "invalid international domain name"
  | badDomainCharacter => "invalid domain character"
  | badPort => "invalid port number"
  | badIpv4 => "invalid IPv4 address"
  | badIpv6 => "invalid IPv6 address"
  | relativeWithoutBase => "relative URL without a base"
  | relativeWithOpaqueBase => "relative URL with a cannot-be-a-base base"

namespace Url

/-! ### The text as a whole -/

/-- Drops blanks and control characters at both ends and tabs and line breaks everywhere. -/
def clean (text : List Char) : List Char :=
  let outer (c : Char) : Bool := c.toNat ≤ 0x20
  let trimmed := ((text.dropWhile outer).reverse.dropWhile outer).reverse
  trimmed.filter fun c => c ≠ '\t' ∧ c ≠ '\n' ∧ c ≠ '\r'

/-- Whether a character may stand in a scheme after its first letter. -/
def isSchemeChar (c : Char) : Bool := c.isAlphanum || c = '+' || c = '-' || c = '.'

/-- The scheme of a text in small letters, and what follows its colon. -/
def splitScheme? (text : List Char) : Option (List Char × List Char) :=
  match text.span isSchemeChar with
  | (c :: name, ':' :: rest) => if c.isAlpha then some ((c :: name).map Char.toLower, rest) else none
  | _ => none

/-- Whether a character separates segments; in a special scheme a backslash does, too. -/
def isSlash (special : Bool) (c : Char) : Bool := c = '/' || special && c = '\\'

/-- Whether a character ends the authority. -/
def endsAuthority (special : Bool) (c : Char) : Bool := isSlash special c || c = '?' || c = '#'

/-! ### The authority -/

/-- The text before the last `@` and the text after it, if there is one. -/
def splitLastAt? (text : List Char) : Option (List Char × List Char) :=
  let tail := (text.reverse.takeWhile (· ≠ '@')).reverse
  if tail.length = text.length then none
  else some (text.take (text.length - tail.length - 1), tail)

/-- User name and password in their encoded forms. -/
def readCredentials (text : List Char) : List Char × List Char :=
  match text.span (· ≠ ':') with
  | (user, _ :: password) =>
    (Percent.encode Percent.userinfo user, Percent.encode Percent.userinfo password)
  | (user, []) => (Percent.encode Percent.userinfo user, [])

/-- The text up to the colon before a port; a colon in brackets is none. -/
def splitHost (inBrackets : Bool) : List Char → List Char × List Char
  | [] => ([], [])
  | c :: rest =>
    if c = ':' ∧ ¬inBrackets then ([], c :: rest)
    else
      let still := if c = '[' then true else if c = ']' then false else inBrackets
      let (host, after) := splitHost still rest
      (c :: host, after)

/-- An address in brackets. -/
def readBracketed (text : List Char) : Except UrlFault Host :=
  if text.getLast? = some ']' then
    match Ipv6.read? text.dropLast with
    | some groups => .ok (.ipv6 groups)
    | none => .error .badIpv6
  else .error .badIpv6

/-- The host of a special scheme: an address or the name of a domain. -/
def readDomain (text : List Char) : Except UrlFault Host :=
  match text with
  | '[' :: rest => readBracketed rest
  | _ =>
    match Domain.toAscii? (Percent.decode (Utf8.encode text)) with
    | none => .error .badDomainName
    | some [] => .error .emptyHost
    | some name =>
      if Ipv4.isMeant name then
        match Ipv4.read? name with
        | some address => .ok (.ipv4 address)
        | none => .error .badIpv4
      else .ok (.name name)

/-- Characters that may not stand in the host of a scheme that is not special. -/
def isForbiddenInHost (c : Char) : Bool := "\x00\t\n\r #/:<>?@[\\]^|".toList.contains c

/-- The host of a scheme that is not special. -/
def readOpaqueHost (text : List Char) : Except UrlFault Host :=
  match text with
  | '[' :: rest => readBracketed rest
  | _ =>
    if text.any isForbiddenInHost then .error .badDomainCharacter
    else .ok (.name (Percent.encode Percent.controls text))

/-- Reads the digits of a port and returns what follows them. -/
def readPortDigits (acc : Option Nat) : List Char → Except UrlFault (Option Nat × List Char)
  | [] => .ok (acc, [])
  | c :: rest =>
    if c.isDigit then
      let next := 10 * acc.getD 0 + (c.toNat - '0'.toNat)
      if next ≤ 65535 then readPortDigits (some next) rest else .error .badPort
    else if c = '\\' then .ok (acc, c :: rest)
    else .error .badPort

/-- Reads what follows the host. A port without digits and the default port count as none. -/
def readPort (scheme : List Char) : List Char → Except UrlFault (Option Nat × List Char)
  | ':' :: rest => do
    let (port, after) ← readPortDigits none rest
    return (if port = defaultPort? scheme then none else port, after)
  | rest => .ok (none, rest)

/-- Reads an authority and returns what it leaves over for the path. -/
def readAuthority (scheme text : List Char) : Except UrlFault (Authority × List Char) := do
  let special := isSpecialScheme scheme
  let (credentials, hostPort) := (splitLastAt? text).getD ([], text)
  let (username, password) := readCredentials credentials
  let (hostText, portText) := splitHost false hostPort
  if hostText.isEmpty ∧ (special ∨ ¬portText.isEmpty) then .error .emptyHost
  let host ←
    if hostText.isEmpty then pure none
    else some <$> (if special then readDomain hostText else readOpaqueHost hostText)
  let (port, rest) ← readPort scheme portText
  if host.isNone ∧ ¬(username.isEmpty ∧ password.isEmpty) then .error .emptyHost
  return ({ username, password, host, port }, rest)

/-! ### Path, query and fragment -/

/-- Splits a text into the segments between its slashes. -/
def splitSegments (special : Bool) : List Char → List (List Char)
  | [] => [[]]
  | c :: rest =>
    if isSlash special c then [] :: splitSegments special rest
    else
      match splitSegments special rest with
      | [] => [[c]]
      | part :: parts => (c :: part) :: parts

/-- Reads `%2e` as a point, in both cases of its letter. -/
def unescapePoints : List Char → List Char
  | '%' :: '2' :: 'e' :: rest | '%' :: '2' :: 'E' :: rest => '.' :: unescapePoints rest
  | c :: rest => c :: unescapePoints rest
  | [] => []

/-- Whether a segment stands for the directory above. -/
def isDoubleDot (segment : List Char) : Bool := unescapePoints segment = ['.', '.']

/-- Whether a segment stands for the directory itself. -/
def isSingleDot (segment : List Char) : Bool := unescapePoints segment = ['.']

/-- Whether a segment is a drive letter, in either of its spellings. -/
def isDriveLetter : List Char → Bool
  | [c, mark] => c.isAlpha && (mark = ':' || mark = '|')
  | _ => false

/-- The path of which the last segment is removed; a drive letter stays, whatever the scheme. -/
def shorten (done : List (List Char)) : List (List Char) :=
  if done.getLast?.any isDriveLetter then done else done.dropLast

/-- Appends one segment that is not the last. The drive letter at the head of the path of a file is
written with a colon. -/
def pushSegment (file : Bool) (done : List (List Char)) (segment : List Char) : List (List Char) :=
  if isDoubleDot segment then shorten done
  else if isSingleDot segment then done
  else
    match file && done.isEmpty && isDriveLetter segment, segment with
    | true, c :: _ => done ++ [[c, ':']]
    | _, _ => done ++ [segment]

/-- Appends the last segment; a dot segment leaves an empty one. -/
def pushLast (file : Bool) (done : List (List Char)) (segment : List Char) : List (List Char) :=
  if isDoubleDot segment then shorten done ++ [[]]
  else if isSingleDot segment then done ++ [[]]
  else pushSegment file done segment

/-- Appends segments to a path. -/
def pushSegments (file : Bool) (done segments : List (List Char)) : List (List Char) :=
  match segments.getLast? with
  | none => done
  | some last =>
    pushLast file (segments.dropLast.foldl (pushSegment file) done) last

/-- Without empty segments at its head, but never without any segment. -/
def dropEmptyHead : List (List Char) → List (List Char)
  | [] :: part :: parts => dropEmptyHead (part :: parts)
  | parts => parts

/-- The segments of a text, encoded for a path and appended to a path. The path of a file begins with
no empty segment in the end, but only then. -/
def readSegments (scheme : List Char) (done : List (List Char)) (text : List Char) :
    List (List Char) :=
  let special := isSpecialScheme scheme
  let parts := (splitSegments special text).map (Percent.encode Percent.path)
  if isFileScheme scheme then dropEmptyHead (pushSegments true done parts)
  else pushSegments false done parts

/-- The path that follows an authority. -/
def readPath (scheme text : List Char) : UrlPath :=
  match text with
  | [] => .segments (if isSpecialScheme scheme then [[]] else [])
  | c :: rest =>
    .segments (readSegments scheme [] (if isSlash (isSpecialScheme scheme) c then rest else text))

/-- Splits a text into path, query and fragment texts. -/
def splitEnd (text : List Char) : List Char × Option (List Char) × Option (List Char) :=
  let (before, fragment) := text.span (· ≠ '#')
  let (path, query) := before.span (· ≠ '?')
  (path, query.tail?, fragment.tail?)

/-- The query in its encoded form. -/
def readQuery (scheme text : List Char) : List Char :=
  Percent.encode (if isSpecialScheme scheme then Percent.specialQuery else Percent.query) text

/-- The fragment in its encoded form. -/
def readFragment (text : List Char) : List Char := Percent.encode Percent.fragment text

/-! ### URLs -/

/-- The URL of given parts, query and fragment being read. -/
def assemble (scheme : List Char) (authority : Option Authority) (path : UrlPath)
    (query fragment : Option (List Char)) : Url :=
  { scheme, authority, path
    query := query.map (readQuery scheme)
    fragment := fragment.map readFragment }

/-- Reads what follows the double slash of an authority. -/
def readAfterSlashes (scheme text : List Char) : Except UrlFault Url := do
  let (authorityText, rest) := text.span fun c => !endsAuthority (isSpecialScheme scheme) c
  let (authority, left) ← readAuthority scheme authorityText
  if authorityText = ['@'] ∧ ¬rest.isEmpty then .error .emptyHost
  let (path, query, fragment) := splitEnd (left ++ rest)
  return assemble scheme (some authority) (readPath scheme path) query fragment

/-- A text without the slash at its head. -/
def dropSlash (special : Bool) : List Char → List Char
  | [] => []
  | c :: rest => if isSlash special c then rest else c :: rest

/-- Reads what follows the scheme of a file: a host after two slashes, and a path. Without a host the
slash that ends the authority counts as the end of an empty segment, and so a drive letter after it
does not stand at the head of the path. -/
def readFile (scheme text : List Char) : Except UrlFault Url := do
  let (path, query, fragment) := splitEnd text
  let file (host : Option Host) (segments : List (List Char)) : Url :=
    assemble scheme (some { host }) (.segments segments) query fragment
  match path with
  | c :: d :: rest =>
    if isSlash true c && isSlash true d then
      let (hostText, after) := rest.span fun c => !isSlash true c
      if hostText.isEmpty || isDriveLetter hostText then
        return file none (readSegments scheme [] rest)
      else
        let host ← readDomain hostText
        if host = .name "localhost".toList then return file none (readSegments scheme [] after)
        else
          let segments := readSegments scheme [] (dropSlash true after)
          return file (if segments.head?.any isDriveLetter then none else some host) segments
    else return file none (readSegments scheme [] (dropSlash true path))
  | _ => return file none (readSegments scheme [] (dropSlash true path))

/-- Reads what follows the scheme of a URL that is read alone. -/
def readAbsolute (scheme rest : List Char) : Except UrlFault Url :=
  if isFileScheme scheme then readFile scheme rest
  else if isSpecialScheme scheme then readAfterSlashes scheme (rest.dropWhile (isSlash true))
  else
    match rest with
    | '/' :: '/' :: after => readAfterSlashes scheme after
    | '/' :: _ =>
      let (path, query, fragment) := splitEnd rest
      .ok (assemble scheme none (readPath scheme path) query fragment)
    | _ =>
      let (path, query, fragment) := splitEnd rest
      .ok (assemble scheme none (.opaquePath (Percent.encode Percent.controls path)) query fragment)

/-- Reads a reference without a scheme of its own at a URL with a path of segments. -/
def readRelative (base : Url) (parts : List (List Char)) (text : List Char) :
    Except UrlFault Url :=
  let special := isSpecialScheme base.scheme
  let file := isFileScheme base.scheme
  match text with
  | c :: rest =>
    if isSlash special c then
      match rest with
      | d :: after =>
        if isSlash special d then
          if c = '/' ∧ d = '/' then readAfterSlashes base.scheme after
          else readAfterSlashes base.scheme (after.dropWhile (isSlash special))
        else fromPath rest []
      | [] => fromPath rest []
    else if c = '?' ∨ c = '#' then
      let (_, query, fragment) := splitEnd text
      .ok { base with
        query := if c = '#' then base.query else query.map (readQuery base.scheme)
        fragment := fragment.map readFragment }
    else fromPath text (if file && parts.getLast?.any isDriveLetter then parts else parts.dropLast)
  | [] => .ok base.withoutFragment
where
  fromPath (rest : List Char) (done : List (List Char)) : Except UrlFault Url :=
    let (path, query, fragment) := splitEnd rest
    .ok (assemble base.scheme base.authority (.segments (readSegments base.scheme done path))
      query fragment)

/-- Reads an absolute URL. -/
def read? (text : List Char) : Except UrlFault Url :=
  match splitScheme? (clean text) with
  | some (scheme, rest) => readAbsolute scheme rest
  | none => .error .relativeWithoutBase

/-- Reads a reference found at `base`. -/
def join (base : Url) (text : List Char) : Except UrlFault Url :=
  let text := clean text
  match splitScheme? text with
  | some (scheme, rest) =>
    let slashes := (rest.takeWhile (isSlash true)).length
    match base.path with
    | .segments parts =>
      if scheme = base.scheme ∧ isSpecialScheme scheme ∧ ¬isFileScheme scheme ∧ slashes < 2 then
        readRelative base parts rest
      else readAbsolute scheme rest
    | .opaquePath _ => readAbsolute scheme rest
  | none =>
    match base.path with
    | .segments parts => readRelative base parts text
    | .opaquePath _ =>
      match text with
      | '#' :: fragment => .ok { base with fragment := some (readFragment fragment) }
      | _ => .error .relativeWithOpaqueBase

end Url
end LoginLoad
