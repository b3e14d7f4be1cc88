import LoginLoad.Text.Decimal
import LoginLoad.Text.Split
import LoginLoad.Url.Percent

/-! # Internet addresses

The written forms of IPv4 and IPv6 addresses in the host of a URL.

* `Ipv4.read?` accepts one to four numbers with points between them, in decimal, octal (`0…`) or
  hexadecimal (`0x…`) form; the last number fills all the bytes that are left.  `Ipv4.text` writes
  four decimal numbers.
* `Ipv6.read?` accepts eight groups of one to four hexadecimal digits; `::` stands for one or more
  groups of zeros, and a dotted IPv4 address may stand for the last two groups.  `Ipv6.text` writes
  the longest run of two or more zero groups, the first of several, as `::`. -/

namespace LoginLoad

/-- The value of a text of digits in a base, or `none` if a character is no digit of the base. -/
def valueIn? (base : Nat) (digits : List Char) : Option Nat :=
  digits.foldlM (fun acc c => do
    let d ← Percent.hexValue? c
    if d < base then some (base * acc + d) else none) 0

namespace Ipv4

/-- One number of an address; an empty text after `0x` or `0` is zero. -/
def number? : List Char → Option Nat
  | [] => none
  | '0' :: 'x' :: rest | '0' :: 'X' :: rest => valueIn? 16 rest
  | '0' :: d :: rest => valueIn? 8 (d :: rest)
  | text => valueIn? 10 text

/-- The parts of a dotted text, without an empty one at its end. -/
def parts (text : List Char) : List (List Char) :=
  let all := splitAt '.' text
  if all.getLast? = some [] then all.dropLast else all

/-- Whether a domain is meant as an address: its last part is a number or consists of digits. -/
def isMeant (text : List Char) : Bool :=
  match (parts text).getLast? with
  | none | some [] => false
  | some last => last.all Char.isDigit || (number? last).isSome

/-- The address of one to four numbers. -/
def ofNumbers? (ns : List Nat) : Option UInt32 :=
  match ns.getLast? with
  | none => none
  | some last =>
    let leading := ns.dropLast
    if 4 < ns.length ∨ leading.any (255 < ·) ∨ 1 <<< (8 * (4 - leading.length)) ≤ last then none
    else
      let high := leading.foldl (fun acc n => 256 * acc + n) 0
      some (UInt32.ofNat (high <<< (8 * (4 - leading.length)) + last))

/-- Reads an address. -/
def read? (text : List Char) : Option UInt32 := do
  let numbers ← (parts text).mapM number?
  ofNumbers? numbers

/-- The four bytes of an address. -/
def bytes (a : UInt32) : List Nat :=
  let n := a.toNat
  [n / 0x1000000, n / 0x10000 % 256, n / 0x100 % 256, n % 256]

/-- The dotted form of an address. -/
def text (a : UInt32) : List Char := ['.'].intercalate ((bytes a).map Decimal.digits)

end Ipv4

namespace Ipv6

/-- A number of a dotted address at the end: decimal, at most 255, without leading zeros. -/
def dottedNumber? (text : List Char) : Option Nat := do
  if text.isEmpty || 3 < text.length then none
  let n ← valueIn? 10 text
  if n ≤ 255 ∧ Decimal.digits n = text then some n else none

/-- The two groups of a dotted address at the end. -/
def dotted? (text : List Char) : Option (List UInt16) := do
  match ← (splitAt '.' text).mapM dottedNumber? with
  | [a, b, c, d] => some [UInt16.ofNat (256 * a + b), UInt16.ofNat (256 * c + d)]
  | _ => none

/-- A group of one to four hexadecimal digits. -/
def group? (text : List Char) : Option UInt16 :=
  if text.isEmpty || 4 < text.length then none else (valueIn? 16 text).map UInt16.ofNat

/-- The groups of a text without `::`; `last` says whether the address ends with it. -/
def groups? (last : Bool) (text : List Char) : Option (List UInt16) :=
  if text.isEmpty then some []
  else
    let all := splitAt ':' text
    match all.getLast? with
    | none => none
    | some tail => do
      let leading ← all.dropLast.mapM group?
      let trailing ← if last && tail.contains '.' then dotted? tail else (group? tail).map ([·])
      some (leading ++ trailing)

/-- The texts before and after the first `::`. -/
def splitGap? : List Char → Option (List Char × List Char)
  | ':' :: ':' :: rest => some ([], rest)
  | c :: rest => (splitGap? rest).map fun (before, after) => (c :: before, after)
  | [] => none

/-- Reads an address: its eight groups. -/
def read? (text : List Char) : Option (List UInt16) :=
  match splitGap? text with
  | some (before, after) => do
    let left ← groups? false before
    let right ← groups? true after
    if left.length + right.length < 8 then
      some (left ++ List.replicate (8 - (left.length + right.length)) 0 ++ right)
    else none
  | none => do
    let all ← groups? true text
    if all.length = 8 then some all else none

/-- A group without leading zeros. -/
def groupText (g : UInt16) : List Char := Nat.toDigits 16 g.toNat

/-- The number of zero groups at the head. -/
def zeros (gs : List UInt16) : Nat := (gs.takeWhile (· = 0)).length

/-- The longest run of zero groups, the first of several, as its start and its length. -/
def longestGap (start : Nat) : List UInt16 → Nat × Nat
  | [] => (0, 0)
  | g :: rest =>
    let here := zeros (g :: rest)
    let later := longestGap (start + 1) rest
    if here ≠ 0 ∧ later.2 ≤ here then (start, here) else later

/-- The written form of an address. -/
def text (gs : List UInt16) : List Char :=
  let (start, length) := longestGap 0 gs
  let write (part : List UInt16) := [':'].intercalate (part.map groupText)
  if length < 2 then write gs
  else write (gs.take start) ++ "::".toList ++ write (gs.drop (start + length))

end Ipv6
end LoginLoad
