import LoginLoad.Text.Utf8

/-! # Percent encoding

A byte that may not stand in a part of a URL is written as `%` and two hexadecimal digits.  Which
bytes that are depends on the part: each part has its set.  Every set holds the control characters,
U+007F and all bytes beyond ASCII.

* `Percent.encode set cs` writes characters for a part.
* `Percent.decode bytes` undoes it: a `%` that two hexadecimal digits do not follow stands for
  itself. -/

namespace LoginLoad
namespace Percent

/-- A set of ASCII characters that are encoded, besides the control characters. -/
abbrev EncodeSet := List Char

/-- For opaque paths and the hosts of schemes that are not special: control characters only. -/
def controls : EncodeSet := []

/-- For fragments. -/
def fragment : EncodeSet := [' ', '"', '<', '>', '\x60']

/-- For queries. -/
def query : EncodeSet := [' ', '"', '#', '<', '>']

/-- For queries of special schemes. -/
def specialQuery : EncodeSet := '\'' :: query

/-- For paths. -/
def path : EncodeSet := fragment ++ ['#', '?', '\x7b', '\x7d']

/-- For user names and passwords. -/
def userinfo : EncodeSet := path ++ ['/', ':', ';', '=', '@', '[', '\\', ']', '^', '|']

/-- Whether a byte is encoded in a part with the given set. -/
def mustEncode (set : EncodeSet) (b : UInt8) : Bool :=
  b < 0x20 || 0x7F ≤ b || set.contains (Char.ofNat b.toNat)

/-- A hexadecimal digit in capitals. -/
def hexDigit (n : Nat) : Char := (Nat.digitChar n).toUpper

/-- The encoded form of a byte. -/
def encodeByte (b : UInt8) : List Char := ['%', hexDigit (b.toNat / 16), hexDigit (b.toNat % 16)]

/-- Writes bytes for a part with the given set. -/
def encodeBytes (set : EncodeSet) (bytes : List UInt8) : List Char :=
  bytes.flatMap fun b => if mustEncode set b then encodeByte b else [Char.ofNat b.toNat]

/-- Writes characters for a part with the given set. -/
def encode (set : EncodeSet) (cs : List Char) : List Char := encodeBytes set (Utf8.encode cs)

/-- The value of a hexadecimal digit. -/
def hexValue? (c : Char) : Option Nat :=
  if c.isDigit then some (c.toNat - '0'.toNat)
  else if 'a' ≤ c ∧ c ≤ 'f' then some (c.toNat - 'a'.toNat + 10)
  else if 'A' ≤ c ∧ c ≤ 'F' then some (c.toNat - 'A'.toNat + 10)
  else none

/-- The value of a byte that stands for a hexadecimal digit. -/
def hexByte? (b : UInt8) : Option Nat := hexValue? (Char.ofNat b.toNat)

/-- Undoes the encoding. -/
def decode : List UInt8 → List UInt8
  | 0x25 :: h :: l :: rest =>
    match hexByte? h, hexByte? l with
    | some m, some n => UInt8.ofNat (16 * m + n) :: decode rest
    | _, _ => 0x25 :: decode (h :: l :: rest)
  | b :: rest => b :: decode rest
  | [] => []

end Percent
end LoginLoad
