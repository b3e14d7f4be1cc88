/-! # Base64

Bytes as text in 64 characters, four for each three bytes, padded with `=` at the end. -/

namespace LoginLoad
namespace Base64

/-- The character for a value below 64. -/
def digit (n : Nat) : Char :=
  if n < 26 then Char.ofNat ('A'.toNat + n)
  else if n < 52 then Char.ofNat ('a'.toNat + (n - 26))
  else if n < 62 then Char.ofNat ('0'.toNat + (n - 52))
  else if n = 62 then '+'
  else '/'

/-- The four values of three bytes. -/
def sextets (a b c : UInt8) : List Nat :=
  let n := 65536 * a.toNat + 256 * b.toNat + c.toNat
  [n / 262144, n / 4096 % 64, n / 64 % 64, n % 64]

/-- Writes bytes in Base64. -/
def encode : List UInt8 → List Char
  | a :: b :: c :: rest => (sextets a b c).map digit ++ encode rest
  | [a, b] => ((sextets a b 0).map digit).take 3 ++ ['=']
  | [a] => ((sextets a 0 0).map digit).take 2 ++ ['=', '=']
  | [] => []

end Base64
end LoginLoad
