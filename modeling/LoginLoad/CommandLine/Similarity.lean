/-! # Similar names

How much two names resemble each other, by the characters that they share in about the same place.

Two characters match if they are equal and not further apart than half the length of the longer name,
less one.  Each character matches at most once.  The similarity is the mean of three shares: of the
first name that matches, of the second name that matches, and of the matches that stand in the same
order in both names. -/

namespace LoginLoad
namespace Similarity

/-- Finds the first place from `i` on that is not taken, lies within the bounds and holds `c`. -/
def place? (c : Char) (low high : Nat) : Nat → List Char → List Bool → Option Nat
  | i, d :: ds, taken :: rest =>
    if high ≤ i then none
    else if low ≤ i ∧ c = d ∧ !taken then some i
    else place? c low high (i + 1) ds rest
  | _, _, _ => none

/-- Matches the characters of `text` from the place `i` on with those of `other`: which of them match,
and which of the other ones are taken. -/
def matching (reach : Nat) (other : List Char) (i : Nat) (taken : List Bool) :
    List Char → List Bool × List Bool
  | [] => ([], taken)
  | c :: rest =>
    match place? c (i - reach) (i + reach + 1) 0 other taken with
    | some j =>
      let (found, taken) := matching reach other (i + 1) (taken.set j true) rest
      (true :: found, taken)
    | none =>
      let (found, taken) := matching reach other (i + 1) taken rest
      (false :: found, taken)

/-- The characters that match. -/
def chosen (text : List Char) (marks : List Bool) : List Char :=
  ((text.zip marks).filter (·.2)).map (·.1)

/-- The similarity of two names, between 0 and 1. -/
def similarity (a b : List Char) : Float :=
  if a.isEmpty && b.isEmpty then 1
  else if a.isEmpty || b.isEmpty then 0
  else
    let reach := max a.length b.length / 2 - 1
    let (left, right) := matching reach b 0 (b.map fun _ => false) a
    let shared := chosen a left
    let count := shared.length
    if count = 0 then 0
    else
      let moved := ((shared.zip (chosen b right)).filter fun (x, y) => x ≠ y).length / 2
      (count.toFloat / a.length.toFloat + count.toFloat / b.length.toFloat +
        (count - moved).toFloat / count.toFloat) / 3

/-- The most similar of some names, the last of several, if its similarity is above 0.7. -/
def best? (text : List Char) (names : List String) : Option String :=
  let rated := (names.map fun n => (n, similarity text n.toList)).filter fun (_, r) => 0.7 < r
  (rated.foldl
    (fun best (n, r) =>
      match best with
      | some (_, q) => if q ≤ r then some (n, r) else best
      | none => some (n, r)) none).map (·.1)

end Similarity
end LoginLoad
