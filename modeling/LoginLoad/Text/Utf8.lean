/-! # UTF-8

Characters as bytes, and bytes as characters.

* `Utf8.encode` writes a list of characters; it is a `flatMap`, so it commutes with `++`
  (`encode_append`).
* `Utf8.decode` reads any bytes at all: each entry of the result is a character, or `none` for the
  longest run of bytes that begins a character and does not finish it.  `Utf8.decode?` accepts
  well-formed bytes only, `Utf8.decodeLossy` puts U+FFFD in the place of each malformed run. -/

namespace LoginLoad
namespace Utf8

/-- The bytes of a list of characters. -/
def encode (cs : List Char) : List UInt8 := cs.flatMap String.utf8EncodeChar

@[simp] theorem encode_nil : encode [] = [] := rfl

@[simp] theorem encode_cons (c : Char) (cs : List Char) :
    encode (c :: cs) = String.utf8EncodeChar c ++ encode cs := rfl

@[simp] theorem encode_append (cs ds : List Char) : encode (cs ++ ds) = encode cs ++ encode ds :=
  List.flatMap_append

/-- What the first byte of a longer character announces. -/
structure Lead where
  /-- The bits of the character that stand in the first byte. -/
  payload : Nat
  /-- The least second byte that may follow. -/
  low : UInt8
  /-- The greatest second byte that may follow. -/
  high : UInt8
  /-- The number of bytes that follow. -/
  count : Nat

/-- Reads a first byte of a character of two to four bytes. The bounds on the second byte shut out
overlong forms, surrogates and values beyond U+10FFFF. -/
def lead (b : UInt8) : Option Lead :=
  if 0xC2 ≤ b ∧ b ≤ 0xDF then some ⟨b.toNat - 0xC0, 0x80, 0xBF, 1⟩
  else if b = 0xE0 then some ⟨0, 0xA0, 0xBF, 2⟩
  else if b = 0xED then some ⟨0xD, 0x80, 0x9F, 2⟩
  else if 0xE1 ≤ b ∧ b ≤ 0xEF then some ⟨b.toNat - 0xE0, 0x80, 0xBF, 2⟩
  else if b = 0xF0 then some ⟨0, 0x90, 0xBF, 3⟩
  else if 0xF1 ≤ b ∧ b ≤ 0xF3 then some ⟨b.toNat - 0xF0, 0x80, 0xBF, 3⟩
  else if b = 0xF4 then some ⟨4, 0x80, 0x8F, 3⟩
  else none

/-- Reads the bytes that follow a first byte: the finished value, or `none` where a byte is missing
or out of bounds, and the bytes that were not used. -/
def follow : Nat → Nat → UInt8 → UInt8 → List UInt8 → Option Nat × List UInt8
  | 0, acc, _, _, rest => (some acc, rest)
  | _ + 1, _, _, _, [] => (none, [])
  | n + 1, acc, low, high, b :: rest =>
    if low ≤ b ∧ b ≤ high then follow n (64 * acc + b.toNat % 64) 0x80 0xBF rest
    else (none, b :: rest)

theorem length_follow_le (n acc : Nat) (low high : UInt8) (bytes : List UInt8) :
    (follow n acc low high bytes).2.length ≤ bytes.length := by
  fun_induction follow n acc low high bytes with
  | case1 => simp
  | case2 => simp
  | case3 n acc low high b rest _ ih => exact Nat.le_trans ih (by simp)
  | case4 => simp

/-- Reads any bytes as characters, with `none` for each malformed run. -/
def decode : List UInt8 → List (Option Char)
  | [] => []
  | b :: rest =>
    if b < 0x80 then some (Char.ofNat b.toNat) :: decode rest
    else
      match lead b with
      | none => none :: decode rest
      | some l =>
        let read := follow l.count l.payload l.low l.high rest
        read.1.map Char.ofNat :: decode read.2
termination_by bytes => bytes.length
decreasing_by
  · simp
  · simp
  · exact Nat.lt_succ_of_le (length_follow_le ..)

/-- Reads well-formed bytes. -/
def decode? (bytes : List UInt8) : Option (List Char) := (decode bytes).mapM id

/-- Reads any bytes, with U+FFFD for each malformed run. -/
def decodeLossy (bytes : List UInt8) : List Char :=
  (decode bytes).map (·.getD '\uFFFD')

end Utf8
end LoginLoad
