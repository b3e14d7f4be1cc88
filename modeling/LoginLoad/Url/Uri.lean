import LoginLoad.Url.Basic

/-! # URLs that can be requested

A request names a URI, and not every URL that can be read is one (`Url.isUri`).

* A URL of a special scheme needs a host without braces, quotes and backquotes.  Its other parts have
  been encoded when it was read.
* Of another scheme the text after the double slash must be an authority.  Without a double slash the
  whole text must be one: `mailto:a@b` looks like a user, a password and a host, but `urn:a:b` has a
  colon too many, and in `foo:a/b` the slash ends the authority too early.
* `isAuthority` counts colons and brackets and leaves open what they mean. -/

namespace LoginLoad

/-- The longest URI. -/
def maxUriLength : Nat := 65534

/-- The longest scheme before a double slash, if it is not a special one. -/
def maxSchemeLength : Nat := 64

/-- Whether a character may stand in an authority, whatever is around it. -/
def isAuthorityChar (c : Char) : Bool :=
  c.isAlphanum || "!$&'()*+,-.;=_~".toList.contains c

/-- How much of an authority has been read. -/
structure AuthorityState where
  /-- The colons after the last `@` or closing bracket. -/
  colons : Nat := 0
  opened : Bool := false
  closed : Bool := false
  /-- Whether a percent sign stands after the last `@` or closing bracket. -/
  escaped : Bool := false

/-- Reads one character of an authority. Before an `@` there may be several colons, and in brackets
there are those of an address. -/
def AuthorityState.step? (s : AuthorityState) (c : Char) : Option AuthorityState :=
  if c = ':' then
    if 8 ≤ s.colons then none else some { s with colons := s.colons + 1 }
  else if c = '[' then
    if s.opened || s.escaped then none else some { s with opened := true }
  else if c = ']' then
    if s.opened && !s.closed then some { s with closed := true, colons := 0, escaped := false }
    else none
  else if c = '@' then some { s with colons := 0, escaped := false }
  else if c = '%' then some { s with escaped := true }
  else if isAuthorityChar c then some s
  else none

/-- Whether a text is an authority: user information, a host and a port in their written forms. -/
def isAuthority (text : List Char) : Bool :=
  !text.isEmpty && text.getLast? ≠ some '@' &&
    (text.foldlM AuthorityState.step? {}).any fun s =>
      s.opened = s.closed && s.colons ≤ 1 && !s.escaped

namespace Url

/-- Whether a URL is a URI. -/
def isUri (u : Url) : Bool :=
  u.text.length ≤ maxUriLength &&
    if isSpecialScheme u.scheme then
      u.host?.any fun host => !host.text.any fun c => "\"\x60\x7b\x7d".toList.contains c
    else
      match u.authority with
      | some a => u.scheme.length ≤ maxSchemeLength && isAuthority a.text
      | none => isAuthority u.text

end Url
end LoginLoad
