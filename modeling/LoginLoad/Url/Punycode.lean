/-! # Punycode

A label of a domain name that holds characters beyond ASCII is sent in ASCII: its ASCII characters
first, then a hyphen if there are any, then the other characters and their places as one sequence
of numbers with variable-length digits in base 36.

`Punycode.encode` writes this form and `Punycode.decode?` reads it. -/

namespace LoginLoad
namespace Punycode

/-- The digit with a value below 36. -/
def digit (d : Nat) : Char :=
  if d < 26 then Char.ofNat ('a'.toNat + d) else Char.ofNat ('0'.toNat + (d - 26))

/-- The value of a digit. -/
def digitValue? (c : Char) : Option Nat :=
  if 'a' ≤ c ∧ c ≤ 'z' then some (c.toNat - 'a'.toNat)
  else if 'A' ≤ c ∧ c ≤ 'Z' then some (c.toNat - 'A'.toNat)
  else if c.isDigit then some (c.toNat - '0'.toNat + 26)
  else none

/-- The least digit at the place `k` that does not end a number. -/
def threshold (bias k : Nat) : Nat := min 26 (max 1 (k - bias))

/-- Reduces a delta until it fits, counting the places that this takes. -/
def shrink (delta places : Nat) : Nat × Nat :=
  if 455 < delta then shrink (delta / 35) (places + 36) else (delta, places)
termination_by delta
decreasing_by exact Nat.div_lt_self (by omega) (by decide)

/-- The bias after a number `delta` that brought the count of characters to `count`. -/
def adapt (delta count : Nat) (first : Bool) : Nat :=
  let scaled := if first then delta / 700 else delta / 2
  let (rest, places) := shrink (scaled + scaled / count) 0
  places + 36 * rest / (rest + 38)

/-! ### Writing -/

/-- The digits of a number from the place `k` on. -/
def writeNumber (bias k q : Nat) : List Char :=
  let t := threshold bias k
  if q < t then [digit q]
  else digit (t + (q - t) % (36 - t)) :: writeNumber bias (k + 36) ((q - t) / (36 - t))
termination_by q
decreasing_by
  have ht : 1 ≤ threshold bias k := by unfold threshold; omega
  exact Nat.lt_of_le_of_lt (Nat.div_le_self _ _) (by omega)

/-- The state of a writer. -/
structure Writer where
  out : List Char
  delta : Nat
  bias : Nat
  /-- The number of characters written so far. -/
  count : Nat

/-- Passes one character of the text while the character number `m` is being written. -/
def Writer.pass (basic m : Nat) (w : Writer) (c : Char) : Writer :=
  if c.toNat < m then { w with delta := w.delta + 1 }
  else if c.toNat = m then
    { out := w.out ++ writeNumber w.bias 36 w.delta
      delta := 0
      bias := adapt w.delta (w.count + 1) (w.count = basic)
      count := w.count + 1 }
  else w

/-- Writes all occurrences of the characters numbered `ms`, which grow; `n` is the least number that
is still open. -/
def Writer.run (text : List Char) (basic : Nat) : List Nat → Nat → Writer → Writer
  | [], _, w => w
  | m :: rest, n, w =>
    let moved := { w with delta := w.delta + (m - n) * (w.count + 1) }
    let passed := text.foldl (pass basic m) moved
    Writer.run text basic rest (m + 1) { passed with delta := passed.delta + 1 }

/-- The encoded form of a label, without the mark in front of it. -/
def encode (text : List Char) : List Char :=
  let basic := text.filter (·.toNat < 0x80)
  let others := ((text.filter (0x80 ≤ ·.toNat)).map Char.toNat).eraseDups.mergeSort
  let start : Writer := ⟨[], 0, 72, basic.length⟩
  let ending := (Writer.run text basic.length others 0x80 start).out
  basic ++ (if basic.isEmpty then [] else ['-']) ++ ending

/-! ### Reading -/

/-- The state of a reader between two digits. -/
structure Reader where
  out : List Char
  /-- The number of the last character read. -/
  n : Nat
  /-- The place of the next character. -/
  place : Nat
  bias : Nat
  /-- The value and the weight of the number that is being read. -/
  value : Nat
  weight : Nat
  /-- The place of the next digit in its number. -/
  k : Nat

/-- Reads one digit; a number that ends puts one character into its place. -/
def Reader.step? (r : Reader) (c : Char) : Option Reader := do
  let d ← digitValue? c
  let value := r.value + d * r.weight
  let t := threshold r.bias r.k
  if 0x100000000 ≤ value then none
  else if t ≤ d then
    let weight := r.weight * (36 - t)
    if 0x100000000 ≤ weight then none else some { r with value, weight, k := r.k + 36 }
  else
    let count := r.out.length + 1
    let sum := r.place + value
    let n := r.n + sum / count
    let place := sum % count
    if n.isValidChar then
      some {
        out := r.out.take place ++ Char.ofNat n :: r.out.drop place
        n
        place := place + 1
        bias := adapt value count (r.place = 0)
        value := 0
        weight := 1
        k := 36 }
    else none

/-- The text before the last hyphen and the text after it; without a hyphen all is after it. -/
def splitLastHyphen (text : List Char) : List Char × List Char :=
  let tail := (text.reverse.takeWhile (· ≠ '-')).reverse
  if tail.length = text.length then ([], text)
  else (text.take (text.length - tail.length - 1), tail)

/-- Reads the encoded form of a label, without the mark in front of it. -/
def decode? (text : List Char) : Option (List Char) := do
  let (basic, digits) := splitLastHyphen text
  if basic.any (0x80 ≤ ·.toNat) then none
  let start : Reader := ⟨basic, 0x80, 0, 72, 0, 1, 36⟩
  let ending ← digits.foldlM Reader.step? start
  if ending.k = 36 then some ending.out else none

end Punycode
end LoginLoad
